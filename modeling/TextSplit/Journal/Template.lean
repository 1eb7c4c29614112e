import TextSplit.Journal.Note
import TextSplit.Unicode.Numeral

/-!
# Templates of log lines

A template is a text with fields in it, each of which stands for a part of a note.  A field is a
percent sign, a name in brackets, flags, a width, a precision, and a letter that says how the part
is written.

* `Template.Field` — a field; `Template.Piece` — a field, other text, or what cannot be read.
* `Template.ofText` — the pieces of a text.
* `Template.isUsable` — whether a text has a field at all, without which it is no template.
* `Template.line?` — the line of a note, if every field of the template stands for a part of it.
-/

namespace TextSplit.Template

/-- A width or precision: a number, or one that is to be given apart. -/
inductive Extent where
  | digits (n : Nat)
  | star
  deriving DecidableEq, Repr, Inhabited

/-- A field. -/
structure Field where
  name : String
  flags : List Char
  width : Option Extent
  precision : Option Extent
  letter : Char
  deriving DecidableEq, Repr, Inhabited

/-- A piece of a template. -/
inductive Piece where
  | char (c : Char)
  | field (f : Field)
  /-- A percent sign that begins no field. -/
  | stray
  deriving DecidableEq, Repr, Inhabited

/-! ## Reading -/

/-- Reads a width or precision, if there is one. -/
def extent (text : List Char) : Option Extent × List Char :=
  match text with
  | '*' :: rest => (some .star, rest)
  | _ =>
    let digits := text.takeWhile Char.isDigit
    if digits.isEmpty then (none, text)
    else
      (some (.digits (digits.foldl (fun n c => 10 * n + (c.toNat - '0'.toNat)) 0)),
        text.dropWhile Char.isDigit)

/-- Reads a precision behind a point, if there is one. -/
def precision (text : List Char) : Option (Option Extent × List Char) :=
  match text with
  | '.' :: rest =>
    match extent rest with
    | (some e, rest) => some (some e, rest)
    | (none, _) => none
  | _ => some (none, text)

/-- The letters that say how a part is written. -/
def letters : List Char := "diouxefgcrsa%".toList

/-- The flags of a field. -/
def flagMarks : List Char := "#0+ -".toList

/-- Reads what follows the percent sign of a field. -/
def field? (text : List Char) : Option (Field × List Char) :=
  match text with
  | '(' :: rest =>
    let name := rest.takeWhile Unicode.isWordChar
    match rest.dropWhile Unicode.isWordChar with
    | ')' :: rest =>
      let flags := rest.takeWhile flagMarks.contains
      let (width, rest) := extent (rest.dropWhile flagMarks.contains)
      match precision rest with
      | some (precision, letter :: rest) =>
        if !name.isEmpty && letters.contains letter.toLower then
          some (⟨String.ofList name, flags, width, precision, letter⟩, rest)
        else none
      | _ => none
    | _ => none
  | _ => none

/-- The pieces of a text, read with as many steps as it has characters. -/
def pieces : Nat → List Char → List Piece
  | 0, _ => []
  | _ + 1, [] => []
  | n + 1, '%' :: '%' :: rest => .char '%' :: pieces n rest
  | n + 1, '%' :: rest =>
    match field? rest with
    | some (f, rest) => .field f :: pieces n rest
    | none => .stray :: pieces n rest
  | n + 1, c :: rest => .char c :: pieces n rest

/-- The pieces of a text. -/
def ofText (text : String) : List Piece := pieces text.length text.toList

/-- Whether a field begins anywhere in a text. -/
def hasField : List Char → Bool
  | [] => false
  | c :: rest => (c == '%' && (field? rest).isSome) || hasField rest

/-- Whether a text can be used as a template. -/
def isUsable (text : String) : Bool := hasField text.toList

/-! ## Writing -/

/-- The part of a note that a field stands for. -/
inductive Part where
  | text (s : String)
  | number (n : Nat)
  deriving DecidableEq, Repr, Inhabited

/-- The part of a note with some name. -/
def part? (now : String) (n : Note) : String → Option Part
  | "asctime" => some (.text now)
  | "levelname" => some (.text n.level.name)
  | "levelno" => some (.number n.level.rank)
  | "name" => some (.text n.origin)
  | "message" | "msg" => some (.text n.text)
  | _ => none

/-- A text of at least some width, with the filling on one side. -/
def padded (onLeft : Bool) (filling : Char) (width : Nat) (text : List Char) : List Char :=
  let missing := List.replicate (width - text.length) filling
  if onLeft then missing ++ text else text ++ missing

/-- The number of an extent that is given in the template itself. -/
def size? (otherwise : Nat) : Option Extent → Option Nat
  | none => some otherwise
  | some (.digits n) => some n
  | some .star => none

/-- The text of a part, cut to the precision and filled up to the width. -/
def written? (f : Field) (p : Part) : Option (List Char) := do
  let width ← size? 0 f.width
  let right := !f.flags.contains '-'
  match f.letter, p with
  | 's', .text s =>
    let precision ← size? s.length f.precision
    return padded right ' ' width (s.toList.take precision)
  | 's', .number n =>
    let digits := (toString n).toList
    let precision ← size? digits.length f.precision
    return padded right ' ' width (digits.take precision)
  | _, .number n =>
    if f.letter = 'd' || f.letter = 'i' || f.letter = 'u' then do
      let precision ← size? 0 f.precision
      let sign := if f.flags.contains '+' then ['+'] else if f.flags.contains ' ' then [' '] else []
      let digits := padded true '0' precision (toString n).toList
      if right && f.flags.contains '0' then
        return sign ++ padded true '0' (width - sign.length) digits
      else return padded right ' ' width (sign ++ digits)
    else none
  | _, _ => none

/-- The text of a piece. -/
def pieceText? (now : String) (n : Note) : Piece → Option (List Char)
  | .char c => some [c]
  | .field f => do
    let p ← part? now n f.name
    written? f p
  | .stray => none

/-- The line of a note, without its end. -/
def line? (template : List Piece) (now : String) (n : Note) : Option String :=
  (template.mapM (pieceText? now n)).map fun texts => String.ofList texts.flatten

end TextSplit.Template
