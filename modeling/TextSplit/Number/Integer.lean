import TextSplit.Machine
import TextSplit.Unicode.Blank
import TextSplit.Unicode.Numeral

/-!
# Integers in texts

An integer is written with the digits of any decimal system.  A sign may stand before the digits, single
low lines between them, and blanks around the whole.

* `Integer.ofChars?` — the integer that a text spells, if it spells one and has not too many digits.
-/

namespace TextSplit.Integer

/-- Whether a character may stand around an integer: a blank that is no information separator. -/
def isAround (c : Char) : Bool := Unicode.isBlank c && !('\x1c' ≤ c && c ≤ '\x1f')

/-- A text without the characters that may stand around an integer. -/
def stripped (text : List Char) : List Char :=
  ((text.dropWhile isAround).reverse.dropWhile isAround).reverse

/-- The values of digits, between which single low lines may stand. -/
def digits? : List Char → Option (List Nat)
  | [] => none
  | [c] => (Unicode.decimalValue? c).map ([·])
  | c :: '_' :: rest => do return (← Unicode.decimalValue? c) :: (← digits? rest)
  | c :: rest => do return (← Unicode.decimalValue? c) :: (← digits? rest)

/-- The number that digits spell, if there are not too many. -/
def magnitude? [Machine] (text : List Char) : Option Nat :=
  (digits? text).bind fun digits =>
    if Machine.digits < digits.length then none else some (digits.foldl (fun n d => 10 * n + d) 0)

/-- The integer that a text spells. -/
def ofChars? [Machine] (text : List Char) : Option Int :=
  match stripped text with
  | '-' :: rest => (magnitude? rest).map fun n => -(n : Int)
  | '+' :: rest => (magnitude? rest).map Int.ofNat
  | rest => (magnitude? rest).map Int.ofNat

end TextSplit.Integer
