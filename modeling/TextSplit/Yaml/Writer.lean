import TextSplit.Text.Quoted
import TextSplit.Yaml.Meaning

/-!
# Writing a settings file

A value is written in blocks, two columns deeper for every level.  A text stands as it is where it
reads back as itself; otherwise it is put between single marks, and between double ones where a
character has to be spelled by its code.  Long texts are folded at single spaces.

* `TextStyle` — the three ways of writing a text; `TextStyle.choose` chooses one.
* `Yaml.writeText` — a text in a style, from a column on.
* `Yaml.write` — a value that settings can hold.
-/

namespace TextSplit.Yaml

/-! ## Choosing a style -/

/-- How a text is written. -/
inductive TextStyle where
  | plain
  | single
  | double
  deriving DecidableEq, Repr, Inhabited

namespace TextStyle

/-- What separates words in a text that is to be written. -/
def separates (c : Char) : Bool := isGap c || c == '\r'

/-- Whether the text behind a character starts with a separator or is empty. -/
def isFollowed (rest : List Char) : Bool := rest.head?.all separates

/-- The signs with which no plain text can start. -/
def signs : List Char :=
  ['#', ',', '[', ']', '\x7b', '\x7d', '&', '*', '!', '|', '>', '\'', '"', '%', '@', '`']

/-- Whether a sign at the start of a text would be misread. -/
def startsWithSign : List Char → Bool
  | [] => false
  | c :: rest =>
    signs.contains c || ((c == '?' || c == ':' || c == '-') && isFollowed rest)

/-- Whether a sign inside a text would be misread: a colon in front of a separator, or a number sign
behind one. -/
def holdsSign : Char → List Char → Bool
  | _, [] => false
  | before, c :: rest =>
    (c == ':' && isFollowed rest) || (c == '#' && separates before) || holdsSign c rest

/-- Whether a character has to be spelled by its code. -/
def isSpecial (c : Char) : Bool := c != '\n' && !(0x20 ≤ c.toNat && c.toNat ≤ 0x7E)

/-- Whether a character is followed by another somewhere in a text. -/
def holdsPair (a b : Char) : List Char → Bool
  | c :: d :: rest => (c == a && d == b) || holdsPair a b (d :: rest)
  | _ => false

/-- Whether a character starts or ends a text. -/
def isAtEnd (c : Char) (text : List Char) : Bool :=
  text.head? == some c || text.getLast? == some c

/-- The style of a text. -/
def choose (text : List Char) : TextStyle :=
  let tail := text.drop 1
  let isMarked := text.take 3 == ['-', '-', '-'] || text.take 3 == ['.', '.', '.']
    || startsWithSign text || holdsSign (text.headD nothing) tail
  let isOdd := text.any isSpecial || holdsPair ' ' '\n' text || holdsPair '\n' ' ' text
  if Meaning.ofPlain text == .text && !isMarked && !isOdd && !isAtEnd ' ' text
      && !text.contains '\n' then .plain
  else if !isOdd then .single
  else .double

end TextStyle

/-! ## Texts -/

/-- The column behind which texts are folded. -/
def bestWidth : Nat := 80

/-- The start of a new line. -/
def newLine (indent : Nat) : List Char := '\n' :: List.replicate indent ' '

/-- The runs of a text in which a property holds throughout or nowhere. -/
def runs (p : Char → Nat) : List Char → List (List Char)
  | [] => []
  | c :: rest =>
    match runs p rest with
    | (d :: run) :: more =>
      if p c == p d then (c :: d :: run) :: more else [c] :: (d :: run) :: more
    | other => [c] :: other

/-- Spaces, breaks, and other characters. -/
def sort (c : Char) : Nat := if c == ' ' then 0 else if c == '\n' then 1 else 2

/-- The runs of a text without breaks, folded at single spaces. -/
def writePlain (indent : Nat) : Nat → List (List Char) → List Char
  | _, [] => []
  | column, run :: more =>
    if run == [' '] && bestWidth < column then
      newLine indent ++ writePlain indent indent more
    else run ++ writePlain indent (column + run.length) more

/-- A run of other characters between single marks, in which every mark is doubled. -/
def doubleMarks (run : List Char) : List Char :=
  run.flatMap fun c => if c == '\'' then ['\'', '\''] else [c]

/-- The runs of a text between single marks.  A break is written twice, because the reader folds
it. -/
def writeSingle (indent : Nat) : Bool → Nat → List (List Char) → List Char
  | _, _, [] => []
  | isFirst, column, run :: more =>
    if run.head? == some '\n' then
      '\n' :: run ++ List.replicate indent ' ' ++ writeSingle indent false indent more
    else if run == [' '] && bestWidth < column && !isFirst && !more.isEmpty then
      newLine indent ++ writeSingle indent false indent more
    else
      let written := doubleMarks run
      written ++ writeSingle indent false (column + written.length) more

/-- The letter for a character behind a backslash. -/
def escapeLetters : List (Char × Char) :=
  [('\x00', '0'), ('\x07', 'a'), ('\x08', 'b'), ('\t', 't'), ('\n', 'n'), ('\x0b', 'v'),
   ('\x0c', 'f'), ('\r', 'r'), ('\x1b', 'e'), ('"', '"'), ('\\', '\\'), ('\x85', 'N'),
   ('\u00a0', '_'), ('\u2028', 'L'), ('\u2029', 'P')]

/-- The digits of a code in capitals. -/
def codeDigits (width n : Nat) : List Char := (Quoted.hex width n).map Char.toUpper

/-- The spelling of a character between double marks, if it cannot stand for itself. -/
def escape? (c : Char) : Option (List Char) :=
  match escapeLetters.lookup c with
  | some letter => some ['\\', letter]
  | none =>
    let n := c.toNat
    if 0x20 ≤ n && n ≤ 0x7E then none
    else if n ≤ 0xFF then some ('\\' :: 'x' :: codeDigits 2 n)
    else if n ≤ 0xFFFF then some ('\\' :: 'u' :: codeDigits 4 n)
    else some ('\\' :: 'U' :: codeDigits 8 n)

/-- A backslash in front of a space that would be lost at the start of a line. -/
def keepSpace (c : Option Char) : List Char := if c == some ' ' then ['\\'] else []

/-- A text between double marks.  `column` is where the last escape or line ended, and `run` counts
the characters written since. -/
def writeDouble (indent : Nat) : Bool → Nat → Nat → List Char → List Char
  | _, _, _, [] => []
  | isFirst, column, run, c :: rest =>
    let mayFold := !isFirst && !rest.isEmpty
    match escape? c with
    | some written =>
      let column := column + run + written.length
      if mayFold && bestWidth < column - 1 then
        let kept := keepSpace rest.head?
        written ++ '\\' :: newLine indent ++ kept
          ++ writeDouble indent false (indent + kept.length) 0 rest
      else written ++ writeDouble indent false column 0 rest
    | none =>
      if mayFold && (c == ' ' || run == 0) && bestWidth < column + run then
        let kept := keepSpace (some c)
        '\\' :: newLine indent ++ kept ++ c
          :: writeDouble indent false (indent + kept.length) 1 rest
      else c :: writeDouble indent false column (run + 1) rest

/-- A text behind a colon that ends at `column`; further lines start at `indent`. -/
def writeText (indent column : Nat) (text : List Char) : List Char :=
  match TextStyle.choose text with
  | .plain => ' ' :: writePlain indent (column + 1) (runs sort text)
  | .single => ' ' :: '\'' :: writeSingle indent true (column + 2) (runs sort text) ++ ['\'']
  | .double => ' ' :: '"' :: writeDouble indent true (column + 2) 0 text ++ ['"']

/-! ## Values -/

mutual

/-- A value behind a colon that ends at `column`, in a mapping at `indent`, with the line's end. -/
def writeValue [Machine] (indent column : Nat) : Value → Except TextSplit.Fault (List Char)
  | .null => .ok (" null\n").toList
  | .bool b => .ok (if b then " true\n" else " false\n").toList
  | .int n =>
    match (Value.int n).unspelled? Machine.digits 0 with
    | some failure => TextSplit.Fault.fail failure
    | none => .ok (' ' :: (toString n).toList ++ ['\n'])
  | .text s => .ok (writeText (indent + 2) column s.toList ++ ['\n'])
  | .dict entries =>
    if entries.isEmpty then .ok (" \x7b\x7d\n").toList
    else do
      let written ← writeEntries (indent + 2) entries
      return '\n' :: written
  | _ => TextSplit.Fault.fail .unwritable

/-- The entries of a mapping at `indent`. -/
def writeEntries [Machine] (indent : Nat) : List (Value × Value) → Except TextSplit.Fault (List Char)
  | [] => .ok []
  | (k, v) :: rest => do
    let name := k.shown.toList
    let written ← writeValue indent (indent + name.length + 1) v
    let more ← writeEntries indent rest
    return List.replicate indent ' ' ++ name ++ ':' :: written ++ more

end

/-- A mapping as a settings file. -/
def write [Machine] (entries : List (Value × Value)) : Except TextSplit.Fault (List Char) :=
  writeEntries 0 entries

end TextSplit.Yaml
