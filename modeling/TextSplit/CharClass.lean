import TextSplit.Text.Quoted
import TextSplit.Text.TextSet
import TextSplit.Unicode.Blank
import TextSplit.Unicode.Numeral

/-!
# Classes of characters

A character class decides for single characters: which of them end a token, and which of them are
trimmed off one.  It is the union of a set, of the blanks, and of tests that a caller brings along.
The set and the blanks can be written down as plain data; a test cannot.

* `CharTest` — a test; a test of the caller's own is told apart from others by a serial number.
* `CharClass` — the type; `CharClass.blanks`, `anyOf`, `ofTest`, `union` build classes.
* `CharClass.holds` — the decision for a text, `CharClass.accepts` for one character.
* `CharClass.isPlain` — whether a class can be written down.
-/

namespace TextSplit

/-! ## Tests -/

/-- A test that a caller brings along. -/
inductive CharTest where
  /-- Every character of the text, which has one, is a digit. -/
  | digit
  /-- Every character of the text, which has one, is a letter. -/
  | letter
  /-- The text is in capitals. -/
  | capital
  /-- Every character of the text, which has one, is blank. -/
  | space
  /-- No value. -/
  | never
  /-- Every value. -/
  | always
  /-- Any run of vowels in alphabetical order, the empty one included. -/
  | vowel
  /-- A test of single characters that the caller has made.  Two of them can have one name, and can even
  accept the same characters, and still be two. -/
  | own (serial : Nat) (name : String) (accepts : Char → Bool)

namespace CharTest

/-- Every code point is below this number. -/
def codePoints : Nat := 0x110000

/-- Two ways to decide for characters are one if they decide alike for every code point. -/
theorem funext_codePoints {f g : Char → Bool} :
    ((List.range codePoints).all fun n => f (Char.ofNat n) == g (Char.ofNat n)) = true ↔ f = g := by
  simp only [List.all_eq_true, List.mem_range, beq_iff_eq]
  constructor
  · intro h
    funext c
    have hlt : c.toNat < codePoints := by
      have := c.valid
      simp only [UInt32.isValidChar, Nat.isValidChar] at this
      simp only [codePoints, Char.toNat]
      omega
    have := h c.toNat hlt
    rwa [Char.ofNat_toNat] at this
  · rintro rfl n -
    rfl

instance : DecidableEq (Char → Bool) := fun _ _ => decidable_of_iff _ funext_codePoints

deriving instance DecidableEq for CharTest

/-- The name of a test. -/
def name : CharTest → String
  | digit => "isdigit"
  | letter => "isalpha"
  | capital => "isupper"
  | space => "isspace"
  | never => "never"
  | always => "always"
  | vowel => "vowel"
  | own _ name _ => name

/-- Whether a test comes with the text type itself. -/
def isMethod : CharTest → Bool
  | digit | letter | capital | space => true
  | never | always | vowel | own _ _ _ => false

/-- The vowels in alphabetical order. -/
def vowels : List Char := ['a', 'e', 'i', 'o', 'u']

/-- Whether a test accepts a text. -/
def onText : CharTest → List Char → Bool
  | digit, t => !t.isEmpty && t.all Unicode.isDigit
  | letter, t => !t.isEmpty && t.all Unicode.isLetter
  | capital, t => Unicode.allCapital t
  | space, t => !t.isEmpty && t.all Unicode.isBlank
  | never, _ => false
  | always, _ => true
  | vowel, t => (List.range (vowels.length + 1)).any fun i => t.isPrefixOf (vowels.drop i)
  | own _ _ accepts, [c] => accepts c
  | own _ _ _, _ => false

/-- Whether a test accepts a value that is no text.  A test made for texts has no answer. -/
def onOther : CharTest → Option Bool
  | never => some false
  | always => some true
  | digit | letter | capital | space | vowel | own _ _ _ => none

/-- The tests that can be asked for by name. -/
def known : List CharTest := [digit, letter, capital, space, never, always, vowel]

end CharTest

/-! ## Classes -/

/-- A class of characters. -/
structure CharClass where
  /-- The texts that the class holds one by one. -/
  members : TextSet
  /-- Whether the class holds the blanks. -/
  blank : Bool
  /-- Tests, each of which admits what it accepts. -/
  tests : List CharTest

namespace CharClass

instance : BEq CharClass :=
  ⟨fun a b => a.members == b.members && a.blank == b.blank && a.tests == b.tests⟩

/-- The class without members. -/
def empty : CharClass := ⟨.empty, false, []⟩

instance : Inhabited CharClass := ⟨empty⟩

/-- The blanks. -/
def blanks : CharClass := ⟨.empty, true, []⟩

/-- The characters of a text. -/
def anyOf (chars : List Char) : CharClass := ⟨.ofChars chars, false, []⟩

/-- What a test accepts. -/
def ofTest (test : CharTest) : CharClass := ⟨.empty, false, [test]⟩

/-- The information separators, which are blank but are never trimmed or split on as blanks. -/
def separators : List Char := ['\x1c', '\x1d', '\x1e', '\x1f']

/-- Whether a text counts as blank: it has a character, all are blank, and it is no separator. -/
def isBlankText (text : List Char) : Bool :=
  !text.isEmpty && text.all Unicode.isBlank && !(separators.map fun c => [c]).contains text

/-- Whether a class holds a text. -/
def holds (k : CharClass) (text : List Char) : Bool :=
  decide (text ∈ k.members) || (k.blank && isBlankText text) || k.tests.any (·.onText text)

/-- Whether a class holds a character. -/
def accepts (k : CharClass) (c : Char) : Bool := k.holds [c]

/-- The class of what either class holds.  A test that the first class has is not added again. -/
def union (a b : CharClass) : CharClass :=
  ⟨a.members.union b.members, a.blank || b.blank,
    a.tests ++ b.tests.filter fun test => !a.tests.contains test⟩

/-- Whether a class can be written down as plain data. -/
def isPlain (k : CharClass) : Bool := k.tests.isEmpty

/-- The spelling of a class inside a message: its parts in a fixed order. -/
def spelling (k : CharClass) : String :=
  let parts :=
    (if k.blank then ["whitespace"] else [])
      ++ (if k.members.isEmpty then []
          else ["any_of(" ++ String.ofList (Quoted.chars k.members.joined) ++ ")"])
      ++ k.tests.map CharTest.name
  "CharPredicate(" ++ (if parts.isEmpty then "none" else String.intercalate " | " parts) ++ ")"

/-- A class accepts one character exactly if its set, its blanks or one of its tests does. -/
theorem accepts_iff {k : CharClass} {c : Char} :
    k.accepts c = true ↔
      [c] ∈ k.members ∨ (k.blank = true ∧ isBlankText [c] = true) ∨
        ∃ test ∈ k.tests, test.onText [c] = true := by
  simp [accepts, holds, or_assoc]

end CharClass

end TextSplit
