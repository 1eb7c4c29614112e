import TextSplit.Value

/-!
# Cells of a sheet

A column of a sheet whose every cell spells an integer is a column of integers, if one word of
memory can hold each of them; any other column is a column of texts.

* `Cell.whole?` — the integer that a cell spells.
* `Cell.fits` — whether integers have a common word that holds them.
* `Cell.typed` — the values of a column.
-/

namespace TextSplit.Cell

/-- Whether a character can stand around a number. -/
def isSpace (c : Char) : Bool := c == ' ' || (9 ≤ c.toNat && c.toNat ≤ 13)

/-- The number that digits spell. -/
def number (digits : List Char) : Nat :=
  digits.foldl (fun n c => 10 * n + (c.toNat - '0'.toNat)) 0

/-- The digits of an integer that may have a sign in front, and whether the sign is a minus. -/
def unsigned : List Char → Bool × List Char
  | '-' :: digits => (true, digits)
  | '+' :: digits => (false, digits)
  | digits => (false, digits)

/-- The integer that a cell spells: a sign or none, digits, and spaces around them. -/
def whole? (cell : String) : Option Int :=
  let (negative, rest) := unsigned (cell.toList.dropWhile isSpace)
  let digits := rest.takeWhile Char.isDigit
  if digits.isEmpty || !(rest.dropWhile Char.isDigit).all isSpace then none
  else some (if negative then -(number digits : Int) else number digits)

/-- One more than the greatest integer of a word with a sign. -/
def signedBound : Int := Nat.pow 2 63

/-- One more than the greatest integer of a word without a sign. -/
def unsignedBound : Int := Nat.pow 2 64

/-- Whether a word of 64 bits can hold each of several integers, be it with a sign or without. -/
def fits (numbers : List Int) : Bool :=
  numbers.all (fun n => decide (-signedBound ≤ n ∧ n < signedBound))
    || numbers.all (fun n => decide (0 ≤ n ∧ n < unsignedBound))

/-- The values of a column. -/
def typed (cells : List String) : List Value :=
  match cells.mapM whole? with
  | some numbers => if fits numbers then numbers.map .int else cells.map .text
  | none => cells.map .text

end TextSplit.Cell
