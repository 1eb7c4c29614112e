import TextSplit.Fault

/-!
# Places in a settings file

Settings files are read from front to back.  A place is what is left of the text, together with
its line and column, because indentation carries meaning.

* `Spot` — a place; `Spot.char` and `Spot.ahead` look at characters, `Spot.skip` moves on.
* `Spot.takeWhile` — a run of characters and the place behind it.
* `Yaml.isBreak`, `isLineEnd`, `isGap` — the characters that end lines and words.
-/

namespace TextSplit.Yaml

/-- Why a settings file cannot be read: it breaks the rules of the format, or what it spells out
makes no sense. -/
inductive Fault where
  | malformed
  | failed (failure : Failure)
  deriving DecidableEq, Repr, Inhabited

/-- Gives up because the format's rules are broken. -/
def refuse {α : Type} : Except Fault α := .error .malformed

/-! ## Characters -/

/-- What stands behind the last character. -/
def nothing : Char := '\x00'

/-- A character that ends a line. -/
def isBreak (c : Char) : Bool := c == '\n' || c == '\x85' || c == '\u2028' || c == '\u2029'

/-- The end of a line or of the text. -/
def isLineEnd (c : Char) : Bool := c == nothing || isBreak c

/-- A space, or the end of a line or of the text. -/
def isSpaceOrEnd (c : Char) : Bool := c == ' ' || isLineEnd c

/-- What separates words. -/
def isGap (c : Char) : Bool := c == '\t' || isSpaceOrEnd c

/-- A letter of the basic alphabet, a digit, a hyphen or an underscore. -/
def isNameChar (c : Char) : Bool := c.isAlphanum || c == '-' || c == '_'

/-! ## Places -/

/-- A place in a text. -/
structure Spot where
  rest : List Char
  /-- The number of characters in front. -/
  index : Nat
  line : Nat
  column : Nat
  deriving Repr, Inhabited

namespace Spot

/-- The start of a text. -/
def start (text : List Char) : Spot := ⟨text, 0, 0, 0⟩

/-- The character here. -/
def char (s : Spot) : Char := s.rest.headD nothing

/-- The character some places further on. -/
def ahead (s : Spot) (n : Nat) : Char := s.rest.getD n nothing

/-- Whether the text is at its end. -/
def atEnd (s : Spot) : Bool := s.rest.isEmpty

/-- The place behind the character here. -/
def next (s : Spot) : Spot :=
  match s.rest with
  | [] => s
  | c :: rest =>
    if isBreak c then ⟨rest, s.index + 1, s.line + 1, 0⟩
    else ⟨rest, s.index + 1, s.line, if c == '\uFEFF' then s.column else s.column + 1⟩

/-- The place some characters further on. -/
def skip (s : Spot) : Nat → Spot
  | 0 => s
  | n + 1 => s.next.skip n

/-- The run of characters with a property, and the place behind it. -/
def takeWhile (s : Spot) (p : Char → Bool) : List Char × Spot :=
  let run := s.rest.takeWhile p
  (run, s.skip run.length)

/-- The place behind the run of characters with a property. -/
def skipWhile (s : Spot) (p : Char → Bool) : Spot := (s.takeWhile p).2

/-- The place behind the spaces here. -/
def skipSpaces (s : Spot) : Spot := s.skipWhile (· == ' ')

/-- The break of a line here, as it counts in a text, and the place behind it.  The rare break
behind `\x85` counts as a line feed. -/
def takeBreak (s : Spot) : List Char × Spot :=
  let c := s.char
  if c == '\n' || c == '\x85' then (['\n'], s.next)
  else if c == '\u2028' || c == '\u2029' then ([c], s.next)
  else ([], s)

/-- Whether a mark that separates documents stands here. -/
def atDocumentMark (s : Spot) : Bool :=
  (s.rest.take 3 == ['-', '-', '-'] || s.rest.take 3 == ['.', '.', '.']) && isGap (s.ahead 3)

/-- The place behind what may stand at the end of a line: spaces, and a comment. -/
def skipLineRest (s : Spot) : Except Fault Spot :=
  let s := s.skipSpaces
  let s := if s.char == '#' then s.skipWhile fun c => !isLineEnd c else s
  if isLineEnd s.char then .ok s.takeBreak.2 else refuse

end Spot

end TextSplit.Yaml
