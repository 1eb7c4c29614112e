/-!
# Bytes in sixty-four characters

Three bytes are written as four characters of six bits each, and a last group that is not full is
filled up with equals signs.  Characters that stand for nothing are skipped.

* `Base64.sextet?` — the six bits that a character stands for.
* `Base64.decode?` — the bytes of a text whose last group is complete.
-/

namespace TextSplit.Base64

/-- The six bits that a character stands for. -/
def sextet? (c : Char) : Option Nat :=
  if c.isUpper then some (c.toNat - 'A'.toNat)
  else if c.isLower then some (c.toNat - 'a'.toNat + 26)
  else if c.isDigit then some (c.toNat - '0'.toNat + 52)
  else if c = '+' then some 62
  else if c = '/' then some 63
  else none

/-- The bytes of what follows some characters of a group: their number, the bits of them that no
byte holds yet, and the signs that fill the group so far. -/
def decodeFrom (place bits fill : Nat) : List Char → Option (List UInt8)
  | [] => if place = 0 then some [] else none
  | c :: rest =>
    if c = '=' then
      if place < 2 then decodeFrom place bits fill rest
      else if 4 ≤ place + fill + 1 then some []
      else decodeFrom place bits (fill + 1) rest
    else
      match sextet? c, place with
      | none, _ => decodeFrom place bits fill rest
      | some n, 0 => decodeFrom 1 n 0 rest
      | some n, 1 => (decodeFrom 2 (n % 16) 0 rest).map ((bits * 4 + n / 16).toUInt8 :: ·)
      | some n, 2 => (decodeFrom 3 (n % 4) 0 rest).map ((bits * 16 + n / 4).toUInt8 :: ·)
      | some n, _ => (decodeFrom 0 0 0 rest).map ((bits * 64 + n).toUInt8 :: ·)

/-- The bytes of a text. -/
def decode? (text : List Char) : Option (List UInt8) := decodeFrom 0 0 0 text

end TextSplit.Base64
