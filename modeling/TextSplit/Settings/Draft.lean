import TextSplit.Journal.Level
import TextSplit.PairSplitter.Plain

/-!
# Drafts of settings

Settings come in sections.  A section is first taken down as it was given, with defaults for what
was left out, and checked afterwards; so a section may hold values that no settings can have.

* `SplitterDraft` — the section of a splitter, which is either the splitter of texts or the one
  that separates keys from values.
* `TableDraft`, `LogDraft` — the other two sections.
* `ofPlain`, `toPlain`, `check` — every draft is read from plain data, written as plain data, and
  checked, which gives the settings that it stands for.
-/

namespace TextSplit

/-- A truth value that an option has to be. -/
def Value.flag? : Value → Option Bool
  | .bool b => some b
  | _ => none

/-- Refuses fields that have no place in a section. -/
def checkNames (known : List String) (fields : List (Value × Value)) : Except Fault Unit :=
  let isKnown (name : Value) : Bool :=
    match name with
    | .text s => known.contains s
    | _ => false
  if fields.all fun (name, _) => isKnown name then .ok () else Fault.fail .wrongType

/-! ## Splitters -/

/-- The splitter that a section holds, or whatever stands in its place. -/
structure SplitterDraft where
  given : Value

namespace SplitterDraft

/-- The section with a field of some name, which need not be given. -/
def ofFields (name : String) (fields : List (Value × Value)) : Except Fault SplitterDraft := do
  checkNames [name] fields
  return ⟨(Value.get? fields name).getD .null⟩

/-- Whether a section says that there is no splitter. -/
def saysNone (kind : Value) : Bool := kind.eqv (.text "None") || kind.eqv .null

/-- Reads a section: a text is short for the splitter on it. -/
def ofPlain [PatternReader] (name : String) (data : Value) : Except Fault SplitterDraft :=
  match data with
  | .thing (.splitter s) => .ok ⟨.thing (.splitter s)⟩
  | .null => .ok ⟨.null⟩
  | .text s => do
    let built ← Splitter.on (.text s)
    return ⟨.thing (.splitter built)⟩
  | .dict entries =>
    if saysNone ((Value.get? entries "type").getD .null) then .ok ⟨.null⟩
    else do
      let built ← Splitter.ofPlain data
      return ⟨.thing (.splitter built)⟩
  | other => Fault.refuse (.splitterSectionUnusable name other)

/-- The written form.  What counts as nothing is written as no splitter. -/
def toPlain (d : SplitterDraft) : Except Fault (List (Value × Value)) :=
  match d.given with
  | .thing (.splitter s) => s.toPlain
  | .thing (.charClass k) => k.toPlain
  | other =>
    if other.isTruthy then Fault.fail .noAttribute
    else .ok [(.text "type", .text "None")]

/-- The splitter of texts, which has to be there. -/
def check (d : SplitterDraft) : Except Fault Splitter :=
  match d.given with
  | .thing (.splitter s) => .ok s
  | .null => Fault.refuse .splitterRequired
  | other => Fault.refuse (.splitterExpected other)

/-- The splitter that separates keys from values, which may be missing. -/
def checkSeparator (d : SplitterDraft) : Except Fault (Option Splitter) :=
  match d.given with
  | .thing (.splitter s) => .ok (some s)
  | .null => .ok none
  | other => Fault.refuse (.separatorExpected other)

end SplitterDraft

/-! ## Tables -/

/-- The section on tables. -/
structure TableDraft where
  target : Value
  dropTarget : Value
  expandPairs : Value

namespace TableDraft

/-- The section when nothing is said. -/
def standard : TableDraft := ⟨.text Settings.defaultTarget, .bool false, .bool false⟩

/-- The section with the given entries. -/
def ofEntries (entries : List (Value × Value)) : TableDraft :=
  ⟨(Value.get? entries "target_column").getD standard.target,
    (Value.get? entries "drop_target_column").getD standard.dropTarget,
    (Value.get? entries "expand_pairs").getD standard.expandPairs⟩

/-- The section with the given fields, whose names have to be known. -/
def ofFields (fields : List (Value × Value)) : Except Fault TableDraft := do
  checkNames ["target_column", "drop_target_column", "expand_pairs"] fields
  return ofEntries fields

/-- Reads a section. -/
def ofPlain (data : Value) : Except Fault TableDraft :=
  match data with
  | .null => .ok standard
  | .dict entries => .ok (ofEntries entries)
  | other => Fault.refuse (.tableSectionUnusable other)

/-- The written form. -/
def toPlain (d : TableDraft) : List (Value × Value) :=
  [(.text "target_column", d.target), (.text "drop_target_column", d.dropTarget),
    (.text "expand_pairs", d.expandPairs)]

/-- A truth value under its name. -/
def checkFlag (name : String) (given : Value) : Except Fault Bool :=
  match given.flag? with
  | some b => .ok b
  | none => Fault.refuse (.flagUnusable name given)

/-- The settings that a section stands for. -/
def check (d : TableDraft) : Except Fault TableSettings :=
  match d.target with
  | .text target =>
    if target.isEmpty then Fault.refuse (.targetUnusable d.target)
    else do
      let dropTarget ← checkFlag "drop_target_column" d.dropTarget
      let expandPairs ← checkFlag "expand_pairs" d.expandPairs
      return ⟨target, dropTarget, expandPairs⟩
  | other => Fault.refuse (.targetUnusable other)

end TableDraft

/-- The written form of settings is that of a draft which has passed. -/
def TableSettings.draft (t : TableSettings) : TableDraft :=
  ⟨.text t.target, .bool t.dropTarget, .bool t.expandPairs⟩

/-! ## Logging -/

/-- The section on logging. -/
structure LogDraft where
  enabled : Value
  consoleLevel : Value
  fileDir : Value
  fileName : Value
  fileLevel : Value

namespace LogDraft

/-- The section when nothing is said: there is no logging. -/
def standard : LogDraft :=
  ⟨.bool false, .text Settings.defaultConsoleLevel, .text Settings.defaultLogDir, .null,
    .text Settings.defaultFileLevel⟩

/-- The section with the given fields, whose names have to be known. -/
def ofFields (fields : List (Value × Value)) : Except Fault LogDraft := do
  checkNames ["enabled", "console_level", "file_dir", "file_name", "file_level"] fields
  return ⟨(Value.get? fields "enabled").getD standard.enabled,
    (Value.get? fields "console_level").getD standard.consoleLevel,
    (Value.get? fields "file_dir").getD standard.fileDir,
    (Value.get? fields "file_name").getD standard.fileName,
    (Value.get? fields "file_level").getD standard.fileLevel⟩

/-- The section with the given entries; that there is a section turns logging on.  A directory is taken down
as what it reads as. -/
def ofEntries (entries : List (Value × Value)) : LogDraft :=
  ⟨(Value.get? entries "enabled").getD (.bool true),
    (Value.get? entries "console_level").getD standard.consoleLevel,
    .text ((Value.get? entries "file_dir").getD standard.fileDir).shown,
    (Value.get? entries "file_name").getD standard.fileName,
    (Value.get? entries "file_level").getD standard.fileLevel⟩

/-- Why the directory of a section cannot be taken down, if it cannot. -/
def unreadable? [Machine] (entries : List (Value × Value)) : Option Failure :=
  ((Value.get? entries "file_dir").getD standard.fileDir).unspelled? Machine.digits Machine.directory

/-- Reads a section. -/
def ofPlain [Machine] (data : Value) : Except Fault LogDraft :=
  match data with
  | .null => .ok standard
  | .dict entries =>
    match unreadable? entries with
    | some failure => Fault.fail failure
    | none => .ok (ofEntries entries)
  | other => Fault.refuse (.logSectionUnusable other)

/-- The written form. -/
def toPlain (d : LogDraft) : List (Value × Value) :=
  [(.text "enabled", d.enabled), (.text "console_level", d.consoleLevel),
    (.text "file_dir", d.fileDir), (.text "file_name", d.fileName),
    (.text "file_level", d.fileLevel)]

/-- A level as it was written, which has to be the name of one. -/
def checkLevel (option : String) (given : Value) : Except Fault String := do
  let _ ← Level.check option given
  return given.shown

/-- The name of the log file, if there is one. -/
def checkFileName (given : Value) : Except Fault (Option String) :=
  match given with
  | .null => .ok none
  | .text name => if name.isEmpty then Fault.refuse (.fileNameUnusable given) else .ok (some name)
  | other => Fault.refuse (.fileNameUnusable other)

/-- The settings that a section stands for. -/
def check (d : LogDraft) : Except Fault LogSettings :=
  match d.enabled.flag? with
  | none => Fault.refuse (.logFlagUnusable d.enabled)
  | some enabled => do
    let consoleLevel ← checkLevel "console_level" d.consoleLevel
    let fileLevel ← checkLevel "file_level" d.fileLevel
    let fileName ← checkFileName d.fileName
    return ⟨enabled, consoleLevel, d.fileDir.shown, fileName, fileLevel⟩

end LogDraft

/-- The written form of settings is that of a draft which has passed. -/
def LogSettings.draft (l : LogSettings) : LogDraft :=
  ⟨.bool l.enabled, .text l.consoleLevel, .text l.fileDir,
    match l.fileName with
    | some name => .text name
    | none => .null,
    .text l.fileLevel⟩

end TextSplit
