import TextSplit.Failure
import TextSplit.Value

/-!
# How values are written in messages

A value has two spellings.  `Value.spelling` shows what the value is: texts are quoted, and every
part is spelled in turn.  `Value.shown` is what the value reads as: a text is itself, and so is
what has a text of its own.  `Value.unspelled?` says which values are too much for a machine.
-/

namespace TextSplit

/-- A number with zeros in front, up to a width. -/
def padded (width n : Nat) : String :=
  let digits := Nat.toDigits 10 n
  String.ofList (List.replicate (width - digits.length) '0' ++ digits)

namespace Thing

/-- The spelling of a thing. -/
def spelling : Thing → String
  | .text s => "Text(" ++ Quoted.text s ++ ")"
  | .buffer s => "StringIO(" ++ Quoted.text s ++ ")"
  | .pattern p => p.spelling
  | .flags f => f.spelling
  | .test t => if t.isMethod then "<method '" ++ t.name ++ "' of 'str' objects>"
    else "<function " ++ t.name ++ ">"
  | .charClass k => k.spelling
  | .splitter s => s.spelling
  | .path p => "PosixPath(" ++ Quoted.text p ++ ")"
  | .settings s => "DelimitConfig(" ++ s.splitter.spelling ++ ")"
  | .date y m d =>
    "datetime.date(" ++ toString y ++ ", " ++ toString m ++ ", " ++ toString d ++ ")"
  | .moment _ spelled => spelled
  | .collection spelled _ => spelled

/-- What a thing reads as. -/
def shown : Thing → String
  | .text s => s
  | .path p => p
  | .date y m d => padded 4 y ++ "-" ++ padded 2 m ++ "-" ++ padded 2 d
  | .moment shown _ => shown
  | t => t.spelling

end Thing

namespace Value

mutual

/-- The spelling of a value. -/
def spelling : Value → String
  | .null => "None"
  | .bool b => if b then "True" else "False"
  | .int n => toString n
  | .real x => x.spelling
  | .text s => Quoted.text s
  | .bytes bs => Quoted.bytes bs
  | .list items => "[" ++ String.intercalate ", " (spellings items) ++ "]"
  | .tuple items =>
    match spellings items with
    | [one] => "(" ++ one ++ ",)"
    | parts => "(" ++ String.intercalate ", " parts ++ ")"
  | .dict entries => "\x7b" ++ String.intercalate ", " (entrySpellings entries) ++ "\x7d"
  | .thing t => t.spelling

/-- The spellings of several values. -/
def spellings : List Value → List String
  | [] => []
  | v :: rest => v.spelling :: spellings rest

/-- The spellings of the entries of a mapping. -/
def entrySpellings : List (Value × Value) → List String
  | [] => []
  | (k, v) :: rest => (k.spelling ++ ": " ++ v.spelling) :: entrySpellings rest

end

mutual

/-- Why a value cannot be spelled with numbers of so many digits and so much room to go down, if it cannot.
Parts are spelled in order, and each takes a step down. -/
def unspelled? (digits room : Nat) : Value → Option Failure
  | .int n => if digits < (Nat.toDigits 10 n.natAbs).length then some .wrongValue else none
  | .list items => unspelledParts? digits room items
  | .tuple items => unspelledParts? digits room items
  | .dict entries => unspelledPairs? digits room entries
  | _ => none

/-- Why one of several parts cannot be spelled. -/
def unspelledParts? (digits room : Nat) : List Value → Option Failure
  | [] => none
  | v :: rest =>
    if room = 0 then some .tooDeep
    else (v.unspelled? digits (room - 1)).or (unspelledParts? digits room rest)

/-- Why one of several entries cannot be spelled. -/
def unspelledPairs? (digits room : Nat) : List (Value × Value) → Option Failure
  | [] => none
  | (k, v) :: rest =>
    if room = 0 then some .tooDeep
    else ((k.unspelled? digits (room - 1)).or (v.unspelled? digits (room - 1))).or
      (unspelledPairs? digits room rest)

end

/-- What a value reads as. -/
def shown : Value → String
  | .text s => s
  | .thing t => t.shown
  | v => v.spelling

end Value

end TextSplit
