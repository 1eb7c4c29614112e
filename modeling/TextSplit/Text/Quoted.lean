import TextSplit.Unicode.Printable

/-!
# Quoted spellings

The spelling of a text or of a run of bytes inside a message: enclosed in quotation marks, on one
line, with every character that would not print shown by its code.

* `mark` — the mark that encloses a text: single, unless that would need escapes and a double one
  would not.
* `escape` — the spelling of one character between such marks.
* `text`, `bytes` — the whole spelling.
-/

namespace TextSplit.Quoted

/-- The lower-case hexadecimal digits of `n`, filled with zeros to `width`. -/
def hex (width n : Nat) : List Char :=
  let digits := Nat.toDigits 16 n
  List.replicate (width - digits.length) '0' ++ digits

/-- The mark that encloses a spelling: a double one exactly when the text holds single marks and
no double one. -/
def mark (chars : List Char) : Char :=
  if chars.contains '\'' && !chars.contains '"' then '"' else '\''

/-- The spelling of a character between two marks. -/
def escape (mark c : Char) : List Char :=
  if c == mark || c == '\\' then ['\\', c]
  else if c == '\n' then ['\\', 'n']
  else if c == '\r' then ['\\', 'r']
  else if c == '\t' then ['\\', 't']
  else if Unicode.isPrintable c then [c]
  else if c.toNat < 0x100 then '\\' :: 'x' :: hex 2 c.toNat
  else if c.toNat < 0x10000 then '\\' :: 'u' :: hex 4 c.toNat
  else '\\' :: 'U' :: hex 8 c.toNat

/-- The quoted spelling of a list of characters. -/
def chars (text : List Char) : List Char :=
  mark text :: text.flatMap (escape (mark text)) ++ [mark text]

/-- The quoted spelling of a text. -/
def text (s : String) : String :=
  String.ofList (chars s.toList)

/-- The spelling of a byte between two marks: as the ASCII character it codes, or by its value. -/
def escapeByte (mark : Char) (b : UInt8) : List Char :=
  if b.toNat < 0x80 then escape mark (Char.ofNat b.toNat) else '\\' :: 'x' :: hex 2 b.toNat

/-- The quoted spelling of bytes, which a leading letter tells from a text. -/
def bytes (bs : List UInt8) : String :=
  let m := mark (bs.map fun b => Char.ofNat b.toNat)
  String.ofList ('b' :: m :: bs.flatMap (escapeByte m) ++ [m])

end TextSplit.Quoted
