import TextSplit.Yaml.Spot

/-!
# Texts over several lines

A settings file can spell a text in three ways: between marks, as it stands, and as a block of
indented lines.  In all of them a line break inside a text is folded: one break becomes a space,
and of several the first is dropped.

* `Yaml.quoted` — the text between two marks.
* `Yaml.plain` — a text as it stands, up to what ends it.
* `Yaml.block` — a block of indented lines.
-/

namespace TextSplit.Yaml

/-- A break between two lines and the breaks behind it, folded. -/
def fold (first : List Char) (more : List (List Char)) : List Char :=
  (if first != ['\n'] then first else if more.isEmpty then [' '] else []) ++ more.flatten

/-! ## Between marks -/

/-- Characters that a letter behind a backslash stands for. -/
def escapes : List (Char × Char) :=
  [('0', '\x00'), ('a', '\x07'), ('b', '\x08'), ('t', '\t'), ('\t', '\t'), ('n', '\n'),
   ('v', '\x0b'), ('f', '\x0c'), ('r', '\r'), ('e', '\x1b'), (' ', ' '), ('"', '"'),
   ('\\', '\\'), ('/', '/'), ('N', '\x85'), ('_', '\u00a0'), ('L', '\u2028'), ('P', '\u2029')]

/-- Letters behind a backslash that announce a code point in so many digits. -/
def codes : List (Char × Nat) := [('x', 2), ('u', 4), ('U', 8)]

/-- The value of a hexadecimal digit. -/
def hexValue? (c : Char) : Option Nat :=
  if c.isDigit then some (c.toNat - '0'.toNat)
  else if 'a' ≤ c && c ≤ 'f' then some (c.toNat - 'a'.toNat + 10)
  else if 'A' ≤ c && c ≤ 'F' then some (c.toNat - 'A'.toNat + 10)
  else none

/-- The number that hexadecimal digits spell. -/
def hexNumber? (digits : List Char) : Option Nat :=
  digits.foldl (fun n c => n.bind fun n => (hexValue? c).map (16 * n + ·)) (some 0)

/-- The character of a code point, which has to exist. -/
def charOf (code : Nat) : Except Fault Char :=
  if 0x110000 ≤ code then .error (.failed .wrongValue) else .ok (Char.ofNat code)

/-- The breaks of empty lines inside a marked text.  A mark that separates documents may not stand
at the start of a line. -/
def quotedBreaks : Nat → Spot → Except Fault (List (List Char) × Spot)
  | 0, _ => refuse
  | fuel + 1, s =>
    if s.atDocumentMark then refuse
    else
      let s := s.skipWhile fun c => c == ' ' || c == '\t'
      if isBreak s.char then do
        let (br, s) := s.takeBreak
        let (more, s) ← quotedBreaks fuel s
        return (br :: more, s)
      else .ok ([], s)

/-- Blanks inside a marked text, with the breaks among them folded. -/
def quotedBlanks (fuel : Nat) (s : Spot) : Except Fault (List Char × Spot) :=
  let (blanks, s) := s.takeWhile fun c => c == ' ' || c == '\t'
  if s.atEnd then refuse
  else if isBreak s.char then do
    let (first, s) := s.takeBreak
    let (more, s) ← quotedBreaks fuel s
    return (fold first more, s)
  else .ok (blanks, s)

/-- What a backslash and the character behind it stand for. -/
def escaped (fuel : Nat) (s : Spot) : Except Fault (List Char × Spot) :=
  let c := s.char
  match escapes.lookup c, codes.lookup c with
  | some meant, _ => .ok ([meant], s.next)
  | none, some digits =>
    let s := s.next
    match hexNumber? (s.rest.take digits) with
    | some code =>
      if s.rest.length < digits then refuse
      else do
        let meant ← charOf code
        return ([meant], s.skip digits)
    | none => refuse
  | none, none =>
    if isBreak c then do
      let (more, s) ← quotedBreaks fuel s.takeBreak.2
      return (more.flatten, s)
    else refuse

/-- The text up to the closing mark, and the place behind the mark. -/
def quotedRest (mark : Char) : Nat → Spot → Except Fault (List Char × Spot)
  | 0, _ => refuse
  | fuel + 1, s => do
    let c := s.char
    if s.atEnd then refuse
    else if c == '\'' && mark == '\'' && s.ahead 1 == '\'' then
      let (more, s) ← quotedRest mark fuel (s.skip 2)
      return ('\'' :: more, s)
    else if c == mark then return ([], s.next)
    else if c == '\\' && mark == '"' then
      let (meant, s) ← escaped fuel s.next
      let (more, s) ← quotedRest mark fuel s
      return (meant ++ more, s)
    else if isGap c then
      let (blanks, s) ← quotedBlanks fuel s
      let (more, s) ← quotedRest mark fuel s
      return (blanks ++ more, s)
    else
      let (more, s) ← quotedRest mark fuel s.next
      return (c :: more, s)

/-- The text between two marks; the place is at the first one. -/
def quoted (s : Spot) : Except Fault (List Char × Spot) :=
  quotedRest s.char (s.rest.length + 1) s.next

/-! ## As it stands -/

/-- What ends a plain text inside a line. -/
def endsPlain (inFlow : Bool) (c next : Char) : Bool :=
  isGap c
    || (c == ':' && (isGap next || (inFlow && [',', '[', ']', '\x7b', '\x7d'].contains next)))
    || (inFlow && [',', '?', '[', ']', '\x7b', '\x7d'].contains c)

/-- The run of a plain text inside a line. -/
def plainRun (inFlow : Bool) : List Char → List Char
  | [] => []
  | c :: rest => if endsPlain inFlow c (rest.headD nothing) then [] else c :: plainRun inFlow rest

/-- The breaks of empty lines inside a plain text, unless a mark that separates documents comes
up. -/
def plainBreaks : Nat → Spot → Option (List (List Char)) × Spot
  | 0, s => (none, s)
  | fuel + 1, s =>
    let s := s.skipSpaces
    if isBreak s.char then
      let (br, s) := s.takeBreak
      if s.atDocumentMark then (none, s)
      else
        let (more, s) := plainBreaks fuel s
        (more.map (br :: ·), s)
    else (some [], s)

/-- What stands between two runs of a plain text, folded; nothing if the text ends here.  The flag
says whether a line ended. -/
def plainBlanks (s : Spot) : Option (List Char) × Bool × Spot :=
  let (blanks, s) := s.takeWhile (· == ' ')
  if isBreak s.char then
    let (first, s) := s.takeBreak
    if s.atDocumentMark then (none, true, s)
    else
      let (more, s) := plainBreaks (s.rest.length + 1) s
      (more.map (fold first), true, s)
  else (if blanks.isEmpty then none else some blanks, false, s)

/-- A plain text: its characters, whether a line ended behind its last run, and the place behind
it.  Outside brackets its lines have to be indented as far as `indent`. -/
def plainFrom (inFlow : Bool) (indent : Int) :
    Nat → List Char → Bool → Spot → List Char × Bool × Spot
  | 0, _, broken, s => ([], broken, s)
  | fuel + 1, blanks, broken, s =>
    let run := plainRun inFlow s.rest
    if s.char == '#' || run.isEmpty then ([], broken, s)
    else
      match plainBlanks (s.skip run.length) with
      | (none, broken, s) => (blanks ++ run, broken, s)
      | (some more, broken, s) =>
        if s.char == '#' || (!inFlow && (s.column : Int) < indent) then
          (blanks ++ run, broken, s)
        else
          let (text, broken, s) := plainFrom inFlow indent fuel more broken s
          (blanks ++ run ++ text, broken, s)

/-- The plain text here. -/
def plain (inFlow : Bool) (indent : Int) (s : Spot) : List Char × Bool × Spot :=
  plainFrom inFlow indent (s.rest.length + 1) [] false s

/-! ## Blocks -/

/-- What happens to the breaks at the end of a block. -/
inductive Chomping where
  | strip
  | clip
  | keep
  deriving DecidableEq, Repr, Inhabited

/-- The sign that chooses what happens at the end. -/
def chomping? (c : Char) : Option Chomping :=
  if c == '+' then some .keep else if c == '-' then some .strip else none

/-- The signs behind the mark of a block, in either order: what happens at the end, and by how much
the block is indented. -/
def blockSigns (s : Spot) : Except Fault (Chomping × Option Nat × Spot) :=
  let indentation (s : Spot) : Except Fault (Option Nat × Spot) :=
    if s.char == '0' then refuse
    else if s.char.isDigit then .ok (some (s.char.toNat - '0'.toNat), s.next)
    else .ok (none, s)
  match chomping? s.char with
  | some chomping => do
    let (width, s) ← indentation s.next
    if isSpaceOrEnd s.char then return (chomping, width, s) else refuse
  | none => do
    let (width, s) ← indentation s
    let (chomping, s) := match width, chomping? s.char with
      | some _, some chomping => (chomping, s.next)
      | _, _ => (.clip, s)
    if isSpaceOrEnd s.char then return (chomping, width, s) else refuse

/-- The empty lines at the start of a block, and the column of the first line that is not empty or
of the longest empty one. -/
def blockIndentation : Nat → Nat → Spot → List (List Char) × Nat × Spot
  | 0, widest, s => ([], widest, s)
  | fuel + 1, widest, s =>
    if s.char == ' ' then
      let s := s.next
      blockIndentation fuel (max widest s.column) s
    else if isBreak s.char then
      let (br, s) := s.takeBreak
      let (more, widest, s) := blockIndentation fuel widest s
      (br :: more, widest, s)
    else ([], widest, s)

/-- The place behind the indentation of a line, at most `indent` columns. -/
def skipIndent (indent : Nat) : Nat → Spot → Spot
  | 0, s => s
  | fuel + 1, s =>
    if s.column < indent && s.char == ' ' then skipIndent indent fuel s.next else s

/-- The breaks of empty lines inside a block. -/
def blockBreaks (indent : Nat) : Nat → Spot → List (List Char) × Spot
  | 0, s => ([], s)
  | fuel + 1, s =>
    let s := skipIndent indent s.rest.length s
    if isBreak s.char then
      let (br, s) := s.takeBreak
      let (more, s) := blockBreaks indent fuel s
      (br :: more, s)
    else ([], s)

/-- The lines of a block: its characters, the last break, and the breaks of the empty lines at its
end. -/
def blockLines (folded : Bool) (indent : Nat) :
    Nat → List (List Char) → Spot → List Char × List Char × List (List Char) × Spot
  | 0, breaks, s => ([], [], breaks, s)
  | fuel + 1, breaks, s =>
    if s.column != indent || s.atEnd then ([], [], breaks, s)
    else
      let bare := !(s.char == ' ' || s.char == '\t')
      let (line, s) := s.takeWhile fun c => !isLineEnd c
      let (br, s) := s.takeBreak
      let (more, s) := blockBreaks indent (s.rest.length + 1) s
      if s.column == indent && !s.atEnd then
        let joint :=
          if folded && br == ['\n'] && bare && !(s.char == ' ' || s.char == '\t') then
            if more.isEmpty then [' '] else []
          else br
        let (text, last, ending, s) := blockLines folded indent fuel more s
        (breaks.flatten ++ line ++ joint ++ text, last, ending, s)
      else (breaks.flatten ++ line, br, more, s)

/-- The block here, inside a collection that is indented by `outer` columns. -/
def block (outer : Int) (s : Spot) : Except Fault (List Char × Spot) := do
  let folded := s.char == '>'
  let (chomping, width, s) ← blockSigns s.next
  let s ← s.skipLineRest
  let least := (max (outer + 1) 1).toNat
  let fuel := s.rest.length + 1
  let (breaks, indent, s) := match width with
    | none =>
      let (breaks, widest, s) := blockIndentation fuel 0 s
      (breaks, max least widest, s)
    | some width =>
      let indent := least + width - 1
      let (breaks, s) := blockBreaks indent fuel s
      (breaks, indent, s)
  let (text, last, ending, s) := blockLines folded indent fuel breaks s
  let text := match chomping with
    | .strip => text
    | .clip => text ++ last
    | .keep => text ++ last ++ ending.flatten
  return (text, s)

end TextSplit.Yaml
