import TextSplit.Tokens

/-!
# Splitting into pairs

A pair splitter cuts a text into entries and each entry into a key and a value.  The value may
hold the separator again: an entry is cut into two fields at most.

* `PairSplitter` — the two splitters.
* `PairSplitter.fieldSplitter` — the splitter that cuts an entry.
* `PairSplitter.split` — the pairs of a text in order of their entries, or the first offending
  entry.
-/

namespace TextSplit

/-- How a text becomes pairs. -/
structure PairSplitter where
  /-- Cuts the text into entries. -/
  entries : Splitter
  /-- Cuts an entry into key and value. -/
  fields : Splitter

/-- What is wrong with an entry. -/
inductive EntryFault where
  /-- It does not have exactly one key and one value. -/
  | malformed (entry : List Char) (fields : List (List Char))
  /-- An earlier entry has its key. -/
  | duplicate (key entry : List Char)
  deriving DecidableEq, Repr, Inhabited

namespace PairSplitter

instance : BEq PairSplitter := ⟨fun a b => a.entries == b.entries && a.fields == b.fields⟩

/-- The number of fields of an entry. -/
def fieldCount : Limit := ⟨2, by decide⟩

/-- The splitter of an entry, which stops at two fields unless it stops earlier by itself. -/
def fieldSplitter (m : PairSplitter) : Splitter :=
  match m.fields.limit with
  | some n => if n.1 ≤ fieldCount.1 then m.fields else m.fields.limited fieldCount
  | none => m.fields.limited fieldCount

/-- The pairs of the entries, behind those found already. -/
def collect (m : PairSplitter) (found : List (List Char × List Char)) :
    List (List Char) → Except EntryFault (List (List Char × List Char))
  | [] => .ok found
  | entry :: rest =>
    match m.fieldSplitter.tokens entry with
    | [key, value] =>
      if (found.lookup key).isSome then .error (.duplicate key entry)
      else collect m (found ++ [(key, value)]) rest
    | fields => .error (.malformed entry fields)

/-- The pairs of a text. -/
def split (m : PairSplitter) (text : List Char) :
    Except EntryFault (List (List Char × List Char)) :=
  m.collect [] (m.entries.tokens text)

/-- The spelling of a pair splitter inside a message. -/
def spelling (m : PairSplitter) : String :=
  "MapSplitter(entry_splitter=" ++ m.entries.spelling
    ++ ", key_value_splitter=" ++ m.fields.spelling ++ ")"

end PairSplitter

end TextSplit
