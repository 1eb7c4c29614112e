import TextSplit.Unicode.RangeTable

/-!
# Blank characters

A character is blank when the standard calls it white space or gives it a separating direction
class.  The four information separators U+001C to U+001F are blank in this sense; trimming leaves
them alone, and says so where it is defined.
-/

namespace TextSplit.Unicode

/-- The ranges of the blank characters. -/
def blankRanges : List (Nat × Nat) :=
  [(0x9, 0xD), (0x1C, 0x20), (0x85, 0x85), (0xA0, 0xA0), (0x1680, 0x1680), (0x2000, 0x200A),
   (0x2028, 0x2029), (0x202F, 0x202F), (0x205F, 0x205F), (0x3000, 0x3000)]

/-- Whether a character is blank. -/
def isBlank (c : Char) : Bool :=
  covers blankRanges c.toNat

end TextSplit.Unicode
