import TextSplit.PairSplitter
import TextSplit.Splitter.Plain

/-!
# Pair splitters as plain data

* `PairSplitter.ofParts` — a pair splitter from two values that have to be splitters.
* `PairSplitter.onSeparator`, `withSeparator` — a splitter of entries, given the separator of key
  and value.
* `PairSplitter.toPlain`, `PairSplitter.ofPlain` — the written form and its reader.
* `PairSplitter.splitValue` — the pairs of any value that reads as a text.
-/

namespace TextSplit.PairSplitter

/-- A part that has to be a splitter. -/
def part (name : String) (given : Value) : Except Fault Splitter :=
  match given with
  | .thing (.splitter s) => .ok s
  | other => Fault.refuse (.pairPartNoSplitter name other)

/-- The pair splitter of two parts. -/
def ofParts (entries fields : Value) : Except Fault PairSplitter := do
  let entries ← part "entry_splitter" entries
  let fields ← part "key_value_splitter" fields
  return ⟨entries, fields⟩

/-- The pair splitter of a splitter of entries and a separator, which is a text or a splitter. -/
def onSeparator (entries : Splitter) (separator : Value) : Except Fault PairSplitter :=
  match separator with
  | .null => Fault.refuse .pairSeparatorNull
  | .text s =>
    if s.isEmpty then Fault.refuse .pairSeparatorEmpty
    else do
      let fields ← Splitter.on separator
      return ⟨entries, fields⟩
  | other => do
    let fields ← part "key_value_splitter" other
    return ⟨entries, fields⟩

/-- The pair splitter of a value that has to be a splitter, and a separator. -/
def withSeparator (entries separator : Value) : Except Fault PairSplitter :=
  match entries with
  | .thing (.splitter s) => onSeparator s separator
  | _ => Fault.fail .noAttribute

/-- The written form. -/
def toPlain (m : PairSplitter) : Except Fault (List (Value × Value)) := do
  let entries ← m.entries.toPlain
  let fields ← m.fields.toPlain
  return [(.text "entries", .dict entries), (.text "key_value", .dict fields)]

/-- Reads the written form, which has both sections. -/
def ofPlain [PatternReader] (data : Value) : Except Fault PairSplitter :=
  match data with
  | .dict sections =>
    match Value.get? sections "entries", Value.get? sections "key_value" with
    | some entries, some fields => do
      let entries ← Splitter.ofPlain entries
      let fields ← Splitter.ofPlain fields
      return ⟨entries, fields⟩
    | _, _ => Fault.refuse (.pairSectionsMissing data)
  | other => Fault.refuse (.pairSectionsMissing other)

/-- The report on an entry. -/
def cause : EntryFault → Cause
  | .malformed entry fields =>
    .entryMalformed (String.ofList entry) (fields.map String.ofList)
  | .duplicate key entry => .keyDuplicate (String.ofList key) (String.ofList entry)

/-- The pairs of a source. -/
def splitValue (m : PairSplitter) (source : Value) :
    Except Fault (List (List Char × List Char)) :=
  match source with
  | .null => Fault.refuse (.textNull m.spelling)
  | source =>
    match m.split source.contents with
    | .ok pairs => .ok pairs
    | .error fault => Fault.refuse (cause fault)

/-- Pairs as the entries of a mapping. -/
def entriesOf (pairs : List (List Char × List Char)) : List (Value × Value) :=
  pairs.map fun (key, value) => (.text (String.ofList key), .text (String.ofList value))

end TextSplit.PairSplitter
