import TextSplit.Journal.Note
import TextSplit.Settings.Draft

/-!
# Settings as plain data

Settings are written down as a mapping of sections.  Reading takes down all sections first, then
checks them in order; so what cannot be read at all is reported before what does not fit.

* `Settings.ofPlain`, `Settings.toPlain` — from the written form and to it.
* `Settings.notes` — what reading leaves in the log.
* `Settings.pairs` — the pair splitter, which has to be set.
-/

namespace TextSplit.Settings

/-- The settings of four sections. -/
def ofDrafts (splitting separator : SplitterDraft) (table : TableDraft) (log : LogDraft) :
    Except Fault Settings := do
  let splitter ← splitting.check
  let separator ← separator.checkSeparator
  let table ← table.check
  let log ← log.check
  return ⟨splitter, separator, table, log⟩

/-- The value of a section, null when it is missing. -/
def sectionOf (sections : List (Value × Value)) (name : String) : Value :=
  (Value.get? sections name).getD .null

/-- Reads the written form. -/
def ofPlain [PatternReader] [Machine] (data : Value) : Except Fault Settings :=
  match data with
  | .dict sections => do
    let splitting ← SplitterDraft.ofPlain "splitting" (sectionOf sections "splitting")
    let separator ← SplitterDraft.ofPlain "key_value" (sectionOf sections "key_value")
    let table ← TableDraft.ofPlain (sectionOf sections "data")
    let log ← LogDraft.ofPlain (sectionOf sections "logging")
    ofDrafts splitting separator table log
  | other => Fault.refuse (.settingsNoMapping other)

/-- The written form: a section is left out when it says nothing. -/
def toPlain (s : Settings) : Except Fault (List (Value × Value)) := do
  let splitting ← s.splitter.toPlain
  let separator ← match s.separator with
    | some separator => do
      let entries ← separator.toPlain
      pure [(Value.text "key_value", Value.dict entries)]
    | none => pure []
  let log := if s.log.enabled then [(Value.text "logging", Value.dict s.log.draft.toPlain)] else []
  return [(.text "splitting", .dict splitting), (.text "data", .dict s.table.draft.toPlain)]
    ++ separator ++ log

/-- The pair splitter, which is there only if a separator is set. -/
def pairs (s : Settings) : Except Fault PairSplitter :=
  match s.pairSplitter? with
  | some m => .ok m
  | none => Fault.refuse .separatorNotSet

/-- What reading a section leaves in the log. -/
def sectionNotes [PatternReader] (data : Value) : List Note :=
  match data with
  | .dict entries =>
    if SplitterDraft.saysNone ((Value.get? entries "type").getD .null) then []
    else Splitter.notes data
  | _ => []

/-- What reading leaves in the log: the notes of the two splitters, the second one only if the
first could be read. -/
def notes [PatternReader] (data : Value) : List Note :=
  match data with
  | .dict sections =>
    let splitting := sectionOf sections "splitting"
    sectionNotes splitting
      ++ match SplitterDraft.ofPlain "splitting" splitting with
        | .ok _ => sectionNotes (sectionOf sections "key_value")
        | .error _ => []
  | _ => []

end TextSplit.Settings
