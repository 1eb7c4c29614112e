import TextSplit.Unicode.Blank
import TextSplit.Unicode.Case
import TextSplit.Unicode.Numeral

/-!
# What a pattern is made of

A pattern is a tree.  Its leaves match one character or one place of the text; its inner nodes
join, choose, repeat and remember.

* `CharSet` — the set of characters that a leaf accepts, under a rule for case.
* `Anchor` — a place of the text: an end, a line end, the edge of a word.
* `Tree` — the patterns.
* `Tree.width` — the least and greatest number of characters that a match can take.
-/

namespace TextSplit.Pattern

/-! ## Character sets -/

/-- The classes of characters that have a name of one letter. -/
inductive Category where
  | digit
  | blank
  | word
  deriving DecidableEq, Repr, Inhabited

/-- Whether a class means its ASCII members only, or all members by the character standard. -/
inductive Alphabet where
  | ascii
  | unicode
  deriving DecidableEq, Repr, Inhabited

/-- How case bears on a match: not at all, for ASCII letters, or for all letters. -/
inductive CaseRule where
  | exact
  | ignore (letters : Alphabet)
  deriving DecidableEq, Repr, Inhabited

/-- A member of a character set.  Code points stand as numbers, since a pattern may name one that
is no character. -/
inductive SetItem where
  | code (n : Nat)
  | range (first last : Nat)
  | category (kind : Category) (alphabet : Alphabet) (negated : Bool)
  deriving DecidableEq, Repr, Inhabited

/-- A set of characters: the union of its items, or all others. -/
structure CharSet where
  negated : Bool
  items : List SetItem
  caseRule : CaseRule
  deriving DecidableEq, Repr, Inhabited

/-- Whether a character belongs to a class. -/
def Category.holds : Category → Alphabet → Char → Bool
  | .digit, .ascii, c => c.isDigit
  | .digit, .unicode, c => Unicode.isDecimal c
  | .blank, .ascii, c => [' ', '\t', '\n', '\r', '\x0b', '\x0c'].contains c
  | .blank, .unicode, c => Unicode.isBlank c
  | .word, .ascii, c => c.isAlphanum || c == '_'
  | .word, .unicode, c => Unicode.isWordChar c

/-- The small letter of a code point as far as the alphabet goes. -/
def Alphabet.lower : Alphabet → Nat → Nat
  | .ascii, n => if 'A'.toNat ≤ n && n ≤ 'Z'.toNat then n + 32 else n
  | .unicode, n => Unicode.lower n

/-- The small letters that count as one letter with `n`, itself first. -/
def Alphabet.likes : Alphabet → Nat → List Nat
  | .ascii, n => [n]
  | .unicode, n => n :: Unicode.partners n

/-- The code points whose small letter is `n`. -/
def Alphabet.raised : Alphabet → Nat → List Nat
  | .ascii, n =>
    (if 'a'.toNat ≤ n && n ≤ 'z'.toNat then [n - 32] else [])
      ++ if Alphabet.ascii.lower n == n then [n] else []
  | .unicode, n => Unicode.capitalsOf n ++ if Unicode.lower n == n then [n] else []

/-- Whether an item holds a character as it stands. -/
def SetItem.holds (item : SetItem) (c : Char) : Bool :=
  match item with
  | .code n => c.toNat == n
  | .range first last => first ≤ c.toNat && c.toNat ≤ last
  | .category kind alphabet negated => kind.holds alphabet c != negated

/-- Whether an item holds a character, or one that differs from it in case alone. -/
def SetItem.holdsLike (letters : Alphabet) (item : SetItem) (c : Char) : Bool :=
  let small := letters.lower c.toNat
  match item with
  | .code n => (letters.likes (letters.lower n)).contains small
  | .range first last =>
    (letters.likes small).any fun like =>
      (letters.raised like).any fun n => first ≤ n && n ≤ last
  | .category kind alphabet negated => kind.holds alphabet (Char.ofNat small) != negated

/-- Whether a set accepts a character. -/
def CharSet.accepts (set : CharSet) (c : Char) : Bool :=
  let held := match set.caseRule with
    | .exact => set.items.any (·.holds c)
    | .ignore letters => set.items.any (·.holdsLike letters c)
  held != set.negated

/-! ## Places -/

/-- A place of the text that a pattern can ask for. -/
inductive Anchor where
  /-- The start of the text. -/
  | textStart
  /-- The end of the text. -/
  | textEnd
  /-- The start of a line. -/
  | lineStart
  /-- The end of a line. -/
  | lineEnd
  /-- The end of the text, or the place before a newline that ends it. -/
  | lastLineEnd
  /-- Between a word character and another, or an end. -/
  | wordEdge (alphabet : Alphabet)
  /-- Any other place of a text that is not empty. -/
  | inWord (alphabet : Alphabet)
  deriving DecidableEq, Repr, Inhabited

/-- Whether exactly one neighbour of a place is a word character. -/
def wordEdgeAt (alphabet : Alphabet) (text : Array Char) (pos : Nat) : Bool :=
  let word := fun c => Category.word.holds alphabet c
  let before := pos != 0 && (text[pos - 1]?).any word
  let after := (text[pos]?).any word
  before != after

/-- Whether an anchor holds at a place.  In the empty text there is no edge of a word, and no
place inside one either. -/
def Anchor.holds (anchor : Anchor) (text : Array Char) (pos : Nat) : Bool :=
  match anchor with
  | .textStart => pos == 0
  | .textEnd => pos == text.size
  | .lineStart => pos == 0 || text[pos - 1]? == some '\n'
  | .lineEnd => pos == text.size || text[pos]? == some '\n'
  | .lastLineEnd =>
    pos == text.size || (pos + 1 == text.size && text[pos]? == some '\n')
  | .wordEdge alphabet => text.size != 0 && wordEdgeAt alphabet text pos
  | .inWord alphabet => text.size != 0 && !wordEdgeAt alphabet text pos

/-! ## Trees -/

/-- How a repetition chooses its number of rounds. -/
inductive Greed where
  /-- As many rounds as can be followed by a match of the rest. -/
  | greedy
  /-- As few. -/
  | lazy
  /-- As many as there are, whatever the rest needs. -/
  | possessive
  deriving DecidableEq, Repr, Inhabited

/-- A pattern. -/
inductive Tree where
  | empty
  | one (set : CharSet)
  | anchor (place : Anchor)
  | seq (first second : Tree)
  | alt (first second : Tree)
  | rounds (min : Nat) (max : Option Nat) (greed : Greed) (body : Tree)
  | capture (group : Nat) (body : Tree)
  | same (group : Nat) (caseRule : CaseRule)
  | lookAhead (negated : Bool) (body : Tree)
  | lookBehind (least greatest : Nat) (negated : Bool) (body : Tree)
  | atomic (body : Tree)
  | ifGroup (group : Nat) (yes no : Tree)
  deriving DecidableEq, Repr, Inhabited

/-- The greatest width that is told apart from an unbounded one. -/
def widthCap : Nat := Nat.pow 2 64

/-- The least and the greatest number of characters that a match takes.  `groups` gives the width
of each group that is already closed. -/
def Tree.width (groups : Nat → Nat × Nat) : Tree → Nat × Nat
  | .empty => (0, 0)
  | .one _ => (1, 1)
  | .anchor _ => (0, 0)
  | .seq a b =>
    let (lo, hi) := a.width groups
    let (lo', hi') := b.width groups
    (min (lo + lo') widthCap, min (hi + hi') widthCap)
  | .alt a b =>
    let (lo, hi) := a.width groups
    let (lo', hi') := b.width groups
    (min lo lo', max hi hi')
  | .rounds least greatest _ body =>
    let (lo, hi) := body.width groups
    let most := match greatest with
      | some n => hi * n
      | none => if hi == 0 then 0 else widthCap
    (min (lo * least) widthCap, min most widthCap)
  | .capture _ body => body.width groups
  | .same group _ => groups group
  | .lookAhead _ _ => (0, 0)
  | .lookBehind _ _ _ _ => (0, 0)
  | .atomic body => body.width groups
  | .ifGroup _ yes no =>
    let (lo, hi) := yes.width groups
    let (lo', hi') := no.width groups
    (min lo lo', max hi hi')

end TextSplit.Pattern
