import TextSplit.Delimiter

/-!
# Splitters

A splitter says where a text is cut and what becomes of the pieces.  It is a value: every modifier
gives a new splitter and leaves the old one alone.

* `Splitter` — a delimiter, an optional trimmer, whether empty tokens are dropped, and an optional
  limit on their number.
* `Splitter.plain` — a splitter that keeps every piece as it is cut.
* `Splitter.trimming`, `droppingEmpty`, `limited` — the modifiers.
-/

namespace TextSplit

/-- The greatest number of tokens a splitter may produce, at least one. -/
abbrev Limit := { n : Nat // 0 < n }

/-- How a text becomes tokens. -/
structure Splitter where
  /-- Where the boundaries are. -/
  delimiter : Delimiter
  /-- The characters that are taken off both ends of every token. -/
  trimmer : Option CharClass
  /-- Whether tokens that are empty after trimming are dropped. -/
  omitEmpty : Bool
  /-- The greatest number of tokens; the last one then holds the rest of the text. -/
  limit : Option Limit

namespace Splitter

instance : BEq Splitter :=
  ⟨fun a b => a.delimiter == b.delimiter && a.trimmer == b.trimmer && a.omitEmpty == b.omitEmpty
    && a.limit == b.limit⟩

/-- The splitter that only cuts. -/
def plain (d : Delimiter) : Splitter := ⟨d, none, false, none⟩

instance : Inhabited Splitter := ⟨plain default⟩

/-- Takes the characters of a class off both ends of every token. -/
def trimming (s : Splitter) (k : CharClass) : Splitter := { s with trimmer := some k }

/-- Drops the tokens that are empty after trimming. -/
def droppingEmpty (s : Splitter) : Splitter := { s with omitEmpty := true }

/-- Stops after `n` tokens.  Dropped tokens do not count. -/
def limited (s : Splitter) (n : Limit) : Splitter := { s with limit := some n }

/-- The spelling of a splitter inside a message. -/
def spelling (s : Splitter) : String :=
  let trimmer := match s.trimmer with
    | none => "None"
    | some k => k.spelling
  let limit := match s.limit with
    | none => "None"
    | some n => toString n.1
  "Splitter(strategy=" ++ s.delimiter.spelling ++ ", trimmer=" ++ trimmer
    ++ ", omit_empty=" ++ (if s.omitEmpty then "True" else "False")
    ++ ", split_limit=" ++ limit ++ ")"

/-- The spelling of the tokens of a splitter inside a message, which does not list them. -/
def resultSpelling (s : Splitter) : String := "SplitResult(splitter=" ++ s.spelling ++ ")"

end Splitter

end TextSplit
