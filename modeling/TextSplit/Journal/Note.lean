import TextSplit.Journal.Level
import TextSplit.PairSplitter.Plain

/-!
# Notes

A note is a line for the log before it has been written: where it comes from, how urgent it is and
what it says.  Notes are kept apart from results: an operation that leaves notes has a second
function, which says which notes a run of the first one leaves, also when that run fails.

* `Note` — a note.
* `Delimiter.notes`, `Splitter.notes`, `PairSplitter.notes` — what reading plain data leaves.
* `PairSplitter.splitNotes` — what splitting into pairs leaves.
-/

namespace TextSplit

/-- A line for the log. -/
structure Note where
  origin : String
  level : Level
  text : String
  deriving DecidableEq, Repr, Inhabited

/-- What reading a delimiter leaves: one note as soon as its kind is known. -/
def Delimiter.notes (data : Value) : List Note :=
  match Delimiter.kindOf data with
  | .ok (kind, _) =>
    [⟨"delimit.strategies.delimiter_strategies", .debug,
      "Building " ++ kind ++ " delimiter from config"⟩]
  | .error _ => []

/-- What reading a splitter leaves: the note of its delimiter, and one more on success. -/
def Splitter.notes [PatternReader] (data : Value) : List Note :=
  match data with
  | .dict entries =>
    Delimiter.notes (.dict (Value.without entries Splitter.optionNames))
      ++ match Splitter.ofPlain data with
        | .ok s => [⟨"delimit.splitter", .debug, "Splitter built from config: " ++ s.spelling⟩]
        | .error _ => []
  | _ => []

/-- What reading a pair splitter leaves: the notes of its sections, the second one only if the
first could be read. -/
def PairSplitter.notes [PatternReader] (data : Value) : List Note :=
  match data with
  | .dict sections =>
    match Value.get? sections "entries", Value.get? sections "key_value" with
    | some entries, some fields =>
      Splitter.notes entries
        ++ match Splitter.ofPlain entries with
          | .ok _ => Splitter.notes fields
          | .error _ => []
    | _, _ => []
  | _ => []

/-- What splitting into pairs leaves: a count on success. -/
def PairSplitter.splitNotes (m : PairSplitter) (source : Value) : List Note :=
  match m.splitValue source with
  | .ok pairs =>
    [⟨"delimit.map_splitter", .debug,
      "Map split produced " ++ toString pairs.length ++ " entries"⟩]
  | .error _ => []

end TextSplit
