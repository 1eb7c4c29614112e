import TextSplit.Journal
import TextSplit.Table.Processing

/-!
# Notes on processing

What processing a table leaves in the log: how it was loaded, the pairs of every record up to the
first one that has a fault, and a count at the end.

* `Table.loadNotes`, `Settings.tokenNotes`, `Settings.pairNotes` — the notes of single steps.
* `Settings.processNotes` — the notes of all of them.
* `Journal.process` — processes a table and writes the notes down.
-/

namespace TextSplit

/-- A note on a table. -/
def Note.onTable (text : String) : Note := ⟨"delimit.core.data_processor", .debug, text⟩

namespace Table

/-- What opening the file of a source leaves. -/
def fileNotes (source : Source) : List Note :=
  match source.path? with
  | some p =>
    if Defaults.tableSuffixes.contains (ending p) then
      [.onTable ("Loading " ++ ending p ++ " file: " ++ p.shown)]
    else []
  | none => []

/-- What loading a table leaves. -/
def loadNotes (target : String) (f : Folder) (source : Source) : List Note :=
  fileNotes source
    ++ match load target f source with
      | .ok t => [.onTable ("Loaded " ++ toString t.size ++ " records")]
      | .error _ => []

/-- What splitting texts into pairs leaves: a note on every record in front of the first one that
has a fault. -/
def pairNotes (m : PairSplitter) (texts : List Value) : List Note :=
  (texts.takeWhile fun text => (m.splitValue text).toOption.isSome).flatMap m.splitNotes

end Table

namespace Settings

/-- What giving every token a row leaves. -/
def tokenNotes (s : Settings) (t : Table) : List Note :=
  match s.splitTokens t with
  | .ok result => [.onTable ("Split into " ++ toString result.size ++ " tokens")]
  | .error _ => []

/-- What adding pairs leaves. -/
def pairNotes (s : Settings) (t : Table) : List Note :=
  (match s.pairSplitter?, t.column? s.table.target with
    | some m, some texts => Table.pairNotes m texts
    | _, _ => [])
    ++ match s.splitPairs t with
      | .ok result =>
        [.onTable ("Split " ++ toString result.size ++ " records into key/value pairs")]
      | .error _ => []

/-- What processing the table of a source leaves. -/
def processNotes (s : Settings) (f : Folder) (source : Source) : List Note :=
  Table.loadNotes s.table.target f source
    ++ match Table.load s.table.target f source with
      | .ok t => if s.separator.isSome then s.pairNotes t else s.tokenNotes t
      | .error _ => []

end Settings

/-- Does what settings say about the log, then processes the table of a source. -/
def Journal.process (now : String) (s : Settings) (source : Source) (j : Journal) :
    Except Fault Table × Journal :=
  match j.apply now s.log.draft with
  | (.error fault, j) => (.error fault, j)
  | (.ok _, j) => (s.process j.folder source, j.logAll now (s.processNotes j.folder source))

end TextSplit
