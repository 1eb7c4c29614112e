import TextSplit.Text.Utf8
import TextSplit.Yaml.Quoted

/-!
# Tokens of a settings file

A settings file shows its structure by signs and by indentation.  Tokens make both explicit: where
the text is indented further a collection starts, and where it is indented less collections end.

A key of a mapping is recognised only at the colon behind it, so the reader remembers where a key
could have started, one place for every level of brackets, and puts the missing tokens there.

* `Token` — the tokens.
* `Lexing` — what the reader knows between two tokens.
* `Token.ofText` — the tokens of a text.
-/

namespace TextSplit.Yaml

/-- A line of instructions in front of a document. -/
inductive Directive where
  | version (major : Nat)
  | tagPrefix (handle tagStart : String)
  | other
  deriving DecidableEq, Repr, Inhabited

/-- A token of a settings file. -/
inductive Token where
  | directive (d : Directive)
  | documentStart
  | documentEnd
  | streamEnd
  | blockSequence
  | blockMapping
  | blockEnd
  | flowSequence
  | flowMapping
  | flowSequenceEnd
  | flowMappingEnd
  | blockEntry
  | flowEntry
  | key
  | value
  | alias (name : String)
  | anchor (name : String)
  | tag (handle : Option String) (suffix : String)
  | scalar (text : List Char) (isPlain : Bool)
  deriving DecidableEq, Repr, Inhabited

/-- Where a key could have started: the number of its first token, its place, and whether
indentation demands that it is one. -/
structure KeyStart where
  number : Nat
  required : Bool
  index : Nat
  line : Nat
  column : Nat
  deriving Repr, Inhabited

/-- What the reader knows between two tokens. -/
structure Lexing where
  spot : Spot
  /-- How many brackets are open. -/
  flow : Nat
  /-- The column of the innermost collection, and those of the collections around it. -/
  indent : Int
  outer : List Int
  /-- Whether a key may start here. -/
  keyAllowed : Bool
  /-- Where keys could have started, by the number of open brackets. -/
  keys : List (Nat × KeyStart)
  /-- The tokens so far, the last one first, and their number. -/
  done : List Token
  count : Nat
  deriving Inhabited

namespace Lexing

/-- Before the first token. -/
def start (text : List Char) : Lexing :=
  ⟨Spot.start text, 0, -1, [], true, [], [], 0⟩

/-- Adds a token. -/
def push (l : Lexing) (t : Token) : Lexing := { l with done := t :: l.done, count := l.count + 1 }

/-- Adds a token in front of the one with a number. -/
def insertAt (l : Lexing) (number : Nat) (t : Token) : Lexing :=
  { l with done := l.done.insertIdx (l.count - number) t, count := l.count + 1 }

/-! ## Keys -/

/-- The greatest length of a key that no mark announces. -/
def keyLength : Nat := 1024

/-- Forgets the starts of keys that lie too far back.  A key that indentation demands may not be
forgotten. -/
def forgetStale (l : Lexing) : Except Fault Lexing :=
  let isStale := fun (k : KeyStart) =>
    k.line != l.spot.line || keyLength < l.spot.index - k.index
  if l.keys.any fun (_, k) => isStale k && k.required then refuse
  else .ok { l with keys := l.keys.filter fun (_, k) => !isStale k }

/-- Forgets the start of a key among the brackets that are open now. -/
def dropKey (l : Lexing) : Except Fault Lexing :=
  match l.keys.lookup l.flow with
  | some k =>
    if k.required then refuse else .ok { l with keys := l.keys.filter (·.1 != l.flow) }
  | none => .ok l

/-- Remembers that a key could start here. -/
def saveKey (l : Lexing) : Except Fault Lexing :=
  if l.keyAllowed then do
    let required := l.flow == 0 && l.indent == l.spot.column
    let l ← l.dropKey
    return { l with
      keys := (l.flow, ⟨l.count, required, l.spot.index, l.spot.line, l.spot.column⟩) :: l.keys }
  else .ok l

/-! ## Indentation -/

/-- Ends the collections that are indented further than a column. -/
def unwindFrom (column : Int) : List Int → Lexing → Lexing
  | [], l => l
  | around :: outer, l =>
    if column < l.indent then
      unwindFrom column outer { l.push .blockEnd with indent := around, outer := outer }
    else l

/-- Ends the collections that are indented further than a column; brackets ignore indentation. -/
def unwind (l : Lexing) (column : Int) : Lexing :=
  if l.flow == 0 then unwindFrom column l.outer l else l

/-- Whether a collection that starts at a column is new. -/
def isDeeper (l : Lexing) (column : Nat) : Bool := l.indent < (column : Int)

/-- Enters a collection at a column. -/
def deepen (l : Lexing) (column : Nat) : Lexing :=
  { l with outer := l.indent :: l.outer, indent := column }

/-! ## Single tokens -/

/-- Moves on. -/
def skip (l : Lexing) (n : Nat) : Lexing := { l with spot := l.spot.skip n }

/-- Sets whether a key may start. -/
def allowing (l : Lexing) (allowed : Bool) : Lexing := { l with keyAllowed := allowed }

/-- A mark that separates documents. -/
def documentMark (l : Lexing) (t : Token) : Except Fault Lexing := do
  let l ← (l.unwind (-1)).dropKey
  return ((l.allowing false).skip 3).push t

/-- An opening bracket. -/
def opening (l : Lexing) (t : Token) : Except Fault Lexing := do
  let l ← l.saveKey
  return (({ l with flow := l.flow + 1 }.allowing true).skip 1).push t

/-- A closing bracket. -/
def closing (l : Lexing) (t : Token) : Except Fault Lexing := do
  let l ← l.dropKey
  if l.flow == 0 then refuse
  else return (({ l with flow := l.flow - 1 }.allowing false).skip 1).push t

/-- A comma between brackets. -/
def entry (l : Lexing) : Except Fault Lexing := do
  let l ← (l.allowing true).dropKey
  return (l.skip 1).push .flowEntry

/-- Starts a collection if a sign outside brackets is indented further than what is around it. -/
def enter (l : Lexing) (t : Token) : Except Fault Lexing :=
  if l.flow != 0 then .ok l
  else if !l.keyAllowed then refuse
  else if l.isDeeper l.spot.column then .ok ((l.deepen l.spot.column).push t)
  else .ok l

/-- The hyphen of an entry. -/
def hyphen (l : Lexing) : Except Fault Lexing := do
  let l ← l.enter .blockSequence
  let l ← (l.allowing true).dropKey
  return (l.skip 1).push .blockEntry

/-- The mark of a key. -/
def questionMark (l : Lexing) : Except Fault Lexing := do
  let l ← l.enter .blockMapping
  let l ← (l.allowing (l.flow == 0)).dropKey
  return (l.skip 1).push .key

/-- The colon of a value.  If a key could have started, it did. -/
def colon (l : Lexing) : Except Fault Lexing :=
  match l.keys.lookup l.flow with
  | some k =>
    let l := { l with keys := l.keys.filter (·.1 != l.flow) }
    let l := l.insertAt k.number .key
    let l := if l.flow == 0 && l.isDeeper k.column then
        (l.deepen k.column).insertAt k.number .blockMapping
      else l
    .ok (((l.allowing false).skip 1).push .value)
  | none => do
    let l ← l.enter .blockMapping
    let l ← (l.allowing (l.flow == 0)).dropKey
    return (l.skip 1).push .value

/-- A token that can be a key of its own. -/
def content (l : Lexing) (read : Spot → Except Fault (Token × Spot)) : Except Fault Lexing := do
  let l ← l.saveKey
  let (t, spot) ← read l.spot
  return ({ l with spot := spot }.allowing false).push t

/-! ## Names and tags -/

/-- The characters that may follow a name. -/
def endsName (c : Char) : Bool :=
  isGap c || ['?', ':', ',', ']', '\x7d', '%', '@', '`'].contains c

/-- A name behind a sign. -/
def name (make : String → Token) (s : Spot) : Except Fault (Token × Spot) :=
  let (name, s) := s.next.takeWhile isNameChar
  if name.isEmpty || !endsName s.char then refuse else .ok (make (String.ofList name), s)

/-- The characters of an address. -/
def isAddressChar (c : Char) : Bool :=
  isNameChar c || [';', '/', '?', ':', '@', '&', '=', '+', '$', ',', '.', '!', '~', '*', '\'', '(',
    ')', '[', ']', '%'].contains c

/-- The bytes that are spelled by codes at the start of an address, and what follows them. -/
def addressCodes : List Char → Option (List UInt8 × List Char)
  | '%' :: a :: b :: rest =>
    match hexValue? a, hexValue? b with
    | some high, some low =>
      (addressCodes rest).map fun (bytes, rest) => ((16 * high + low).toUInt8 :: bytes, rest)
    | _, _ => none
  | '%' :: _ => none
  | rest => some ([], rest)

/-- The characters of an address in which bytes may be spelled by codes. -/
def decodedAddress : Nat → List Char → Option (List Char)
  | 0, _ => none
  | _ + 1, [] => some []
  | fuel + 1, c :: rest =>
    if c == '%' then
      match addressCodes (c :: rest) with
      | none => none
      | some (bytes, rest) =>
        match Utf8.decode? bytes, decodedAddress fuel rest with
        | some meant, some more => some (meant ++ more)
        | _, _ => none
    else (decodedAddress fuel rest).map (c :: ·)

/-- An address. -/
def address (s : Spot) : Except Fault (String × Spot) :=
  let (run, s) := s.takeWhile isAddressChar
  match decodedAddress (run.length + 1) run with
  | some text => if run.isEmpty then refuse else .ok (String.ofList text, s)
  | none => refuse

/-- The short form of the start of a tag: an exclamation mark, or a name between two. -/
def tagHandle (s : Spot) : Except Fault (String × Spot) :=
  if s.char != '!' then refuse
  else
    let (name, t) := s.next.takeWhile isNameChar
    if t.char == '!' then .ok ("!" ++ String.ofList name ++ "!", t.next)
    else if name.isEmpty && s.ahead 1 == ' ' then .ok ("!", s.next)
    else refuse

/-- A tag. -/
def tag (s : Spot) : Except Fault (Token × Spot) := do
  let (t, s) ←
    if s.ahead 1 == '<' then do
      let (suffix, s) ← address (s.skip 2)
      if s.char == '>' then pure (Token.tag none suffix, s.next) else refuse
    else if isGap (s.ahead 1) then pure (Token.tag none "!", s.next)
    else do
      let hasHandle := ((s.rest.drop 1).takeWhile fun c => !isSpaceOrEnd c).contains '!'
      let (handle, s) ← if hasHandle then tagHandle s else pure ("!", s.next)
      let (suffix, s) ← address s
      pure (Token.tag (some handle) suffix, s)
  if isSpaceOrEnd s.char then return (t, s) else refuse

/-! ## Directives -/

/-- The version of the format, of which the first number counts. -/
def version (s : Spot) : Except Fault (Directive × Spot) :=
  let (major, s) := s.skipSpaces.takeWhile Char.isDigit
  if major.isEmpty || s.char != '.' then refuse
  else
    let (minor, s) := s.next.takeWhile Char.isDigit
    if minor.isEmpty || !isSpaceOrEnd s.char then refuse
    else .ok (.version (Binary64.digitsValue major), s)

/-- A short form of the start of tags, and what it stands for. -/
def tagPrefix (s : Spot) : Except Fault (Directive × Spot) := do
  let (handle, s) ← tagHandle s.skipSpaces
  if s.char != ' ' then refuse
  else
    let (meant, s) ← address s.skipSpaces
    if isSpaceOrEnd s.char then return (.tagPrefix handle meant, s) else refuse

/-- A line of instructions. -/
def directive (l : Lexing) : Except Fault Lexing := do
  let l ← (l.unwind (-1)).dropKey
  let (name, s) := l.spot.next.takeWhile isNameChar
  if name.isEmpty || !isSpaceOrEnd s.char then refuse
  else
    let (d, s) ← match String.ofList name with
      | "YAML" => version s
      | "TAG" => tagPrefix s
      | _ => pure (Directive.other, s.skipWhile fun c => !isLineEnd c)
    let s ← s.skipLineRest
    return ({ l with spot := s }.allowing false).push (.directive d)

/-! ## All tokens -/

/-- The place of the next token: behind spaces, comments and empty lines.  Outside brackets a key
may start on a new line. -/
def skipToToken : Nat → Lexing → Lexing
  | 0, l => l
  | fuel + 1, l =>
    let s := l.spot.skipSpaces
    let s := if s.char == '#' then s.skipWhile fun c => !isLineEnd c else s
    if isBreak s.char then
      skipToToken fuel { l with spot := s.takeBreak.2, keyAllowed := l.keyAllowed || l.flow == 0 }
    else { l with spot := s }

/-- Whether a plain text can start here. -/
def startsPlain (l : Lexing) : Bool :=
  let c := l.spot.char
  let signs := ['-', '?', ':', ',', '[', ']', '\x7b', '\x7d', '#', '&', '*', '!', '|', '>', '\'',
    '"', '%', '@', '`']
  !(isGap c || signs.contains c)
    || (!isGap (l.spot.ahead 1) && (c == '-' || (l.flow == 0 && (c == '?' || c == ':'))))

/-- A plain text.  Behind a line break a key may start. -/
def plainText (l : Lexing) : Except Fault Lexing := do
  let l ← l.saveKey
  let (text, broken, spot) := plain (l.flow != 0) (l.indent + 1) l.spot
  return ({ l with spot := spot }.allowing broken).push (.scalar text true)

/-- A block of indented lines. -/
def blockText (l : Lexing) : Except Fault Lexing := do
  let l ← (l.allowing true).dropKey
  let (text, spot) ← block l.indent l.spot
  return ({ l with spot := spot }).push (.scalar text false)

/-- Reads the token here. -/
def token (l : Lexing) : Except Fault Lexing :=
  let s := l.spot
  let c := s.char
  let inBlock := l.flow == 0
  let gapFollows := isGap (s.ahead 1)
  if c == '%' && s.column == 0 then l.directive
  else if s.column == 0 && s.atDocumentMark then
    l.documentMark (if c == '-' then .documentStart else .documentEnd)
  else if c == '[' then l.opening .flowSequence
  else if c == '\x7b' then l.opening .flowMapping
  else if c == ']' then l.closing .flowSequenceEnd
  else if c == '\x7d' then l.closing .flowMappingEnd
  else if c == ',' then l.entry
  else if c == '-' && gapFollows then l.hyphen
  else if c == '?' && (!inBlock || gapFollows) then l.questionMark
  else if c == ':' && (!inBlock || gapFollows) then l.colon
  else if c == '*' then l.content (name .alias)
  else if c == '&' then l.content (name .anchor)
  else if c == '!' then l.content tag
  else if (c == '|' || c == '>') && inBlock then l.blockText
  else if c == '\'' || c == '"' then
    l.content fun s => do
      let (text, s) ← quoted s
      return (.scalar text false, s)
  else if l.startsPlain then l.plainText
  else refuse

/-- Reads all tokens. -/
def run : Nat → Lexing → Except Fault (List Token)
  | 0, _ => refuse
  | fuel + 1, l => do
    let l := skipToToken (l.spot.rest.length + 1) l
    let l ← l.forgetStale
    let l := l.unwind l.spot.column
    if l.spot.atEnd then
      let l ← (l.unwind (-1)).dropKey
      return (l.push .streamEnd).done.reverse
    else
      let l ← l.token
      run fuel l

end Lexing

/-- The tokens of a text.  Every token takes at least one character. -/
def Token.ofText (text : List Char) : Except Fault (List Token) :=
  let l := Lexing.start text
  let l := if text.head? == some '\uFEFF' then l.skip 1 else l
  l.run (text.length + 2)

end TextSplit.Yaml
