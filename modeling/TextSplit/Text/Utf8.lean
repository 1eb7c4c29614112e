/-!
# Bytes and characters

The eight-bit form of characters: a character is one to four bytes, and its first byte says how
many follow.  What follows has to lie in a range that the first byte narrows, so that every
character has exactly one form.

* `Utf8.Lead` — what a first byte announces.
* `Utf8.take` — the first character of some bytes, or the longest run that could have begun one.
* `Utf8.decode?` — the characters of bytes without a fault.
* `Utf8.decodeReplacing` — the characters of any bytes, with a mark for each faulty run.
* `Utf8.encode` — the bytes of characters.
-/

namespace TextSplit.Utf8

/-- What a first byte announces: its share of the code point, the number of bytes that follow, and
the range of the first of these. -/
structure Lead where
  share : Nat
  owed : Nat
  low : Nat
  high : Nat
  deriving DecidableEq, Repr, Inhabited

/-- What a byte announces, if it can be the first one of several. -/
def lead? (b : Nat) : Option Lead :=
  if 0xC2 ≤ b && b ≤ 0xDF then some ⟨b - 0xC0, 1, 0x80, 0xBF⟩
  else if b == 0xE0 then some ⟨0, 2, 0xA0, 0xBF⟩
  else if b == 0xED then some ⟨0xD, 2, 0x80, 0x9F⟩
  else if 0xE1 ≤ b && b ≤ 0xEF then some ⟨b - 0xE0, 2, 0x80, 0xBF⟩
  else if b == 0xF0 then some ⟨0, 3, 0x90, 0xBF⟩
  else if 0xF1 ≤ b && b ≤ 0xF3 then some ⟨b - 0xF0, 3, 0x80, 0xBF⟩
  else if b == 0xF4 then some ⟨4, 3, 0x80, 0x8F⟩
  else none

/-- Reads the bytes that are owed.  At the first one out of range the reading stops in front of it,
without a code point. -/
def takeOwed : (owed low high code : Nat) → List UInt8 → Option Nat × List UInt8
  | 0, _, _, code, bytes => (some code, bytes)
  | _ + 1, _, _, _, [] => (none, [])
  | owed + 1, low, high, code, b :: rest =>
    if low ≤ b.toNat && b.toNat ≤ high then
      takeOwed owed 0x80 0xBF (code * 64 + (b.toNat - 0x80)) rest
    else (none, b :: rest)

theorem length_takeOwed_le (owed low high code : Nat) (bytes : List UInt8) :
    (takeOwed owed low high code bytes).2.length ≤ bytes.length := by
  induction owed generalizing low high code bytes with
  | zero => simp [takeOwed]
  | succ owed ih =>
    cases bytes with
    | nil => simp [takeOwed]
    | cons b rest =>
      simp only [takeOwed]
      split
      · exact Nat.le_succ_of_le (ih ..)
      · simp

/-- The first character of some bytes, if they begin with one, and the bytes behind it. -/
def take (b : UInt8) (rest : List UInt8) : Option Char × List UInt8 :=
  if b.toNat < 0x80 then (some (Char.ofNat b.toNat), rest)
  else
    match lead? b.toNat with
    | none => (none, rest)
    | some l =>
      match takeOwed l.owed l.low l.high l.share rest with
      | (code, rest) => (code.map Char.ofNat, rest)

/-- Every reading uses up at least one byte. -/
theorem length_take_le (b : UInt8) (rest : List UInt8) :
    (take b rest).2.length ≤ rest.length := by
  unfold take
  split
  · simp
  · split
    · simp
    · exact length_takeOwed_le ..

/-- The readings of some bytes one after another, with nothing in the place of a faulty run. -/
def readings : List UInt8 → List (Option Char)
  | [] => []
  | b :: rest =>
    have := length_take_le b rest
    (take b rest).1 :: readings (take b rest).2
termination_by bytes => bytes.length
decreasing_by
  simp only [List.length_cons]
  omega

/-- The characters of bytes without a fault. -/
def decode? (bytes : List UInt8) : Option (List Char) :=
  (readings bytes).mapM id

/-- The mark that stands for a faulty run. -/
def replacement : Char := '\uFFFD'

/-- The characters of bytes, with a mark for each faulty run. -/
def decodeReplacing (bytes : List UInt8) : List Char :=
  (readings bytes).map (·.getD replacement)

/-- The bytes of a text. -/
def encode (text : String) : List UInt8 := text.toUTF8.toList

end TextSplit.Utf8
