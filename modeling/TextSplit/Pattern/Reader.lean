import TextSplit.Number.Integer
import TextSplit.Pattern.Fault
import TextSplit.Pattern.Flags
import TextSplit.Pattern.Tree
import TextSplit.Text.Quoted
import TextSplit.Unicode.CharName
import TextSplit.Unicode.Identifier

/-!
# Reading a pattern

A pattern is read token by token, a token being one character, or a backslash with the character
behind it.  The reader keeps what the syntax refers back to: the flags, the groups by number and
name, and whether it stands inside a look-behind.

* `Reading` — the state of the reader; `Reading.peek`, `advance`, `accept` move over tokens.
* `readEscape`, `readSetEscape` — what a backslash stands for outside and inside a set.
* `readSet`, `readFlags`, `readBounds` — the bracketed parts of the syntax.
* `readBranches`, `readItems` — alternatives, and the items of one alternative.
* `Tree.fault?` — what no tree may hold, though the syntax allows it.
* `read` — a whole pattern: the flags to write with it and its tree.

Every recursive call of the readers takes at least one token, so one unit of fuel for each
character of the pattern, and a few to spare, are always enough.
-/

namespace TextSplit.Pattern

/-! ## Tokens -/

/-- One step of the reader's input. -/
inductive Token where
  | none
  | plain (c : Char)
  | escaped (c : Char)
  deriving DecidableEq, Repr, Inhabited

/-- The characters of a token. -/
def Token.chars : Token → List Char
  | .none => []
  | .plain c => [c]
  | .escaped c => ['\\', c]

/-- The state of the reader. -/
structure Reading where
  /-- What has not been read. -/
  rest : List Char
  /-- The place of the next token. -/
  pos : Nat
  /-- The flags of the pattern as a whole. -/
  flags : Flags
  /-- The numbers of the named groups. -/
  names : List (List Char × Nat)
  /-- The number of groups opened. -/
  opened : Nat
  /-- The widths of the groups closed. -/
  widths : List (Nat × (Nat × Nat))
  /-- Inside a look-behind, the number of groups opened before it. -/
  lookBase : Option Nat
  /-- Groups that a condition refers to, with the place of the first reference. -/
  referred : List (Nat × Nat)
  /-- The number of groups around the place. -/
  depth : Nat
  /-- Whether the pattern is one of bytes, which are read as the characters of their codes. -/
  ofBytes : Bool
  deriving Inhabited

/-- Reading may fail, and it moves on. -/
abbrev Read := StateT Reading (Except Fault)

namespace Reading

/-- The next token. -/
def token (r : Reading) : Token :=
  match r.rest with
  | [] => .none
  | '\\' :: c :: _ => .escaped c
  | c :: _ => .plain c

/-- Whether a group has been opened and closed. -/
def isClosed (r : Reading) (group : Nat) : Bool :=
  (r.widths.lookup group).isSome

/-- The width of a closed group. -/
def widthOf (r : Reading) (group : Nat) : Nat × Nat :=
  (r.widths.lookup group).getD (0, 0)

end Reading

/-- A wording with only ASCII characters: the others are given by their codes, of two digits. -/
def inAscii (wording : String) : String :=
  String.ofList <| wording.toList.flatMap fun c =>
    if c.toNat < 128 then [c] else '\\' :: 'x' :: Nat.toDigits 16 c.toNat

/-- Fails with a fault that lies `back` characters before the next token. -/
def fail {α : Type} (wording : String) (back : Nat := 0) : Read α := do
  let r ← get
  throw (.malformed (if r.ofBytes then inAscii wording else wording) (some (r.pos - back)))

/-- The next token, left where it is. -/
def peek : Read Token := do
  return (← get).token

/-- Refuses a rest that is a lone backslash, which no token can begin. -/
def checkRest : Read Unit := do
  let r ← get
  if r.rest == ['\\'] then throw (.malformed "bad escape (end of pattern)" (some r.pos))

/-- Steps over the next token. -/
def advance : Read Unit := do
  modify fun r =>
    let n := r.token.chars.length
    { r with rest := r.rest.drop n, pos := r.pos + n }
  checkRest

/-- Takes the next token. -/
def take : Read Token := do
  let t ← peek
  advance
  return t

/-- Takes the next token if it is the given character. -/
def accept (c : Char) : Read Bool := do
  if (← peek) == .plain c then
    advance
    return true
  else
    return false

/-- Takes up to `n` characters of a class. -/
def takeWhile (member : Char → Bool) : Nat → Read (List Char)
  | 0 => return []
  | n + 1 => do
    match ← peek with
    | .plain c =>
      if member c then
        advance
        return c :: (← takeWhile member n)
      else
        return []
    | _ => return []

/-- Takes characters up to a closing mark, and the mark; what is missing is named in a fault. -/
def takeUntil (close : Char) (what : String) : Nat → List Char → Read (List Char)
  | 0, _ => fail ("missing " ++ what)
  | n + 1, taken => do
    match ← take with
    | .none =>
      if taken.isEmpty then fail ("missing " ++ what)
      else
        let mark := String.singleton close
        fail ("missing " ++ mark ++ ", unterminated name") taken.length
    | t =>
      if t == .plain close then
        if taken.isEmpty then fail ("missing " ++ what) 1 else return taken
      else
        takeUntil close what n (taken ++ t.chars)

/-- Fuel for walks over the rest of the pattern. -/
def restFuel : Read Nat := do
  return (← get).rest.length + 1

/-! ## Escapes -/

/-- Whether a character is an octal digit. -/
def isOctal (c : Char) : Bool := '0' ≤ c && c ≤ '7'

/-- Whether a character is a hexadecimal digit. -/
def isHex (c : Char) : Bool :=
  c.isDigit || ('a' ≤ c && c ≤ 'f') || ('A' ≤ c && c ≤ 'F')

/-- The value of a hexadecimal digit. -/
def hexValue (c : Char) : Nat :=
  if c.isDigit then c.toNat - '0'.toNat
  else if 'a' ≤ c && c ≤ 'f' then c.toNat - 'a'.toNat + 10
  else c.toNat - 'A'.toNat + 10

/-- The value of digits in a base. -/
def valueIn (base : Nat) (digits : List Char) : Nat :=
  digits.foldl (fun n c => base * n + hexValue c) 0

/-- The alphabet that flags choose for the classes. -/
def Flags.alphabet (f : Flags) : Alphabet :=
  if f.meets Flags.ascii then .ascii else .unicode

/-- The rule for case that flags choose. -/
def Flags.caseRule (f : Flags) : CaseRule :=
  if f.meets Flags.ignoreCase then .ignore f.alphabet else .exact

/-- The class that a letter behind a backslash names. -/
def namedCategory (f : Flags) : Char → Option SetItem
  | 'd' => some (.category .digit f.alphabet false)
  | 'D' => some (.category .digit f.alphabet true)
  | 's' => some (.category .blank f.alphabet false)
  | 'S' => some (.category .blank f.alphabet true)
  | 'w' => some (.category .word f.alphabet false)
  | 'W' => some (.category .word f.alphabet true)
  | _ => none

/-- The control character that a letter behind a backslash names. -/
def namedControl : Char → Option Nat
  | 'a' => some 7
  | 'b' => some 8
  | 'f' => some 12
  | 'n' => some 10
  | 'r' => some 13
  | 't' => some 9
  | 'v' => some 11
  | '\\' => some '\\'.toNat
  | _ => none

/-- The anchor that a letter behind a backslash names. -/
def namedAnchor (f : Flags) : Char → Option Anchor
  | 'A' => some .textStart
  | 'b' => some (.wordEdge f.alphabet)
  | 'B' => some (.inWord f.alphabet)
  | 'Z' => some .textEnd
  | _ => none

/-- The wording for an escape that means nothing. -/
def badEscape {α : Type} (escape : List Char) : Read α :=
  fail ("bad escape " ++ String.ofList escape) escape.length

/-- Takes exactly `n` hexadecimal digits behind an escape letter. -/
def readHexEscape (letter : Char) (n : Nat) : Read Nat := do
  let digits ← takeWhile isHex n
  let escape := '\\' :: letter :: digits
  if digits.length != n then
    fail ("incomplete escape " ++ String.ofList escape) escape.length
  else
    let value := valueIn 16 digits
    if 0x10FFFF < value then badEscape escape else return value

/-- Takes the name of a character in braces. -/
def readNameEscape [CharNames] : Read Nat := do
  unless ← accept '\x7b' do
    fail "missing \x7b"
  let name ← takeUntil '\x7d' "character name" (← restFuel) []
  match CharNames.find? name with
  | some n => return n
  | none =>
    fail ("undefined character name " ++ String.ofList (Quoted.chars name)) (name.length + 4)

/-- The wording for an octal escape beyond one byte. -/
def octalTooLarge {α : Type} (escape : List Char) : Read α :=
  fail ("octal escape value " ++ String.ofList escape ++ " outside of range 0-0o377") escape.length

/-- What an escape stands for inside a set. -/
def readSetEscape [CharNames] (f : Flags) (c : Char) : Read SetItem := do
  match namedControl c with
  | some n => return .code n
  | none =>
  match namedCategory f c with
  | some item => return item
  | none =>
    let isText := !(← get).ofBytes
    if c == 'x' then return .code (← readHexEscape c 2)
    else if c == 'u' && isText then return .code (← readHexEscape c 4)
    else if c == 'U' && isText then return .code (← readHexEscape c 8)
    else if c == 'N' && isText then return .code (← readNameEscape)
    else if isOctal c then
      let digits := c :: (← takeWhile isOctal 2)
      let value := valueIn 8 digits
      if 0o377 < value then octalTooLarge ('\\' :: digits) else return .code value
    else if c.isDigit || c.isAlpha then badEscape ['\\', c]
    else return .code c.toNat

/-- A leaf for one code point. -/
def leaf (f : Flags) (n : Nat) : Tree :=
  .one ⟨false, [.code n], f.caseRule⟩

/-- Refuses a reference to a group that the look-behind around it could not have closed. -/
def checkLookBehind (group : Nat) : Read Unit := do
  let r ← get
  match r.lookBase with
  | none => return ()
  | some base =>
    if !r.isClosed group then fail "cannot refer to an open group"
    if base < group then
      fail "cannot refer to group defined in the same lookbehind subpattern"

/-- A reference by number, whose spelling is `digits`. -/
def readBackReference (f : Flags) (digits : List Char) : Read Tree := do
  let group := valueIn 10 digits
  let r ← get
  if group ≤ r.opened then
    if !r.isClosed group then
      fail "cannot refer to an open group" (digits.length + 1)
    checkLookBehind group
    return .same group f.caseRule
  else
    fail ("invalid group reference " ++ toString group) digits.length

/-- What an escape stands for outside a set. -/
def readEscape [CharNames] (f : Flags) (c : Char) : Read Tree := do
  match namedAnchor f c with
  | some place => return .anchor place
  | none =>
  match namedCategory f c with
  | some item => return .one ⟨false, [item], f.caseRule⟩
  | none =>
  match namedControl c with
  | some n => return leaf f n
  | none =>
    let isText := !(← get).ofBytes
    if c == 'x' then return leaf f (← readHexEscape c 2)
    else if c == 'u' && isText then return leaf f (← readHexEscape c 4)
    else if c == 'U' && isText then return leaf f (← readHexEscape c 8)
    else if c == 'N' && isText then return leaf f (← readNameEscape)
    else if c == '0' then
      return leaf f (valueIn 8 (← takeWhile isOctal 2))
    else if c.isDigit then
      match ← takeWhile Char.isDigit 1 with
      | [d] =>
        let octal := isOctal c && isOctal d
        match ← if octal then takeWhile isOctal 1 else pure [] with
        | [e] =>
          let value := valueIn 8 [c, d, e]
          if 0o377 < value then octalTooLarge ['\\', c, d, e] else return leaf f value
        | _ => readBackReference f [c, d]
      | _ => readBackReference f [c]
    else if c.isAlpha then badEscape ['\\', c]
    else return leaf f c.toNat

/-! ## Sets -/

/-- One end of a range, or a member by itself. -/
def readMember [CharNames] (f : Flags) : Token → Read SetItem
  | .escaped c => readSetEscape f c
  | .plain c => return .code c.toNat
  | .none => return .code 0

/-- Fails because the set that opened at `start` has no end. -/
def unclosedSet {α : Type} (start : Nat) : Read α :=
  throw (.malformed "unterminated character set" (some start))

/-- The items of a set up to its closing bracket, which ends it unless it comes first. -/
def readSetItems [CharNames] (f : Flags) (start : Nat) : Nat → List SetItem → Read (List SetItem)
  | 0, _ => unclosedSet start
  | fuel + 1, items => do
    let this ← take
    if this == .none then unclosedSet start
    else if this == .plain ']' && !items.isEmpty then return items
    else
      let first ← readMember f this
      if ← accept '-' then
        let that ← take
        if that == .none then unclosedSet start
        else if that == .plain ']' then return items ++ [first, .code '-'.toNat]
        else
          let last ← readMember f that
          let bad : Read (List SetItem) := fail
            ("bad character range " ++ String.ofList this.chars ++ "-" ++ String.ofList that.chars)
            (this.chars.length + 1 + that.chars.length)
          match first, last with
          | .code lo, .code hi =>
            if hi < lo then bad else readSetItems f start fuel (items ++ [.range lo hi])
          | _, _ => bad
      else
        readSetItems f start fuel (items ++ [first])

/-- A set, behind its opening bracket. -/
def readSet [CharNames] (f : Flags) : Read Tree := do
  let start := (← get).pos - 1
  let negated ← accept '^'
  let items ← readSetItems f start (← restFuel) []
  return .one ⟨negated, items, f.caseRule⟩

/-! ## Flags in a pattern -/

/-- The flag that a letter stands for. -/
def flagOf : Char → Option Flags
  | 'i' => some Flags.ignoreCase
  | 'L' => some Flags.locale
  | 'm' => some Flags.multiline
  | 's' => some Flags.dotAll
  | 'x' => some Flags.verbose
  | 'a' => some Flags.ascii
  | 't' => some Flags.template
  | 'u' => some Flags.unicode
  | _ => none

/-- Fails at a token that is no flag: an unknown one if it is a letter, else what is missing. -/
def notAFlag {α : Type} (t : Token) (missing : String) : Read α :=
  match t with
  | .plain c =>
    fail (if Unicode.isLetter c then "unknown flag" else missing) 1
  | t => fail missing t.chars.length

/-- The flags turned on, from a first letter to the mark that ends them. -/
def readFlagsOn : Nat → Char → Flags → Read (Flags × Char)
  | 0, _, _ => fail "missing -, : or )"
  | fuel + 1, c, on => do
    match flagOf c with
    | none => fail "missing -, : or )"
    | some flag =>
      if (← get).ofBytes then
        if c == 'u' then fail "bad inline flags: cannot use 'u' flag with a bytes pattern"
      else if c == 'L' then fail "bad inline flags: cannot use 'L' flag with a str pattern"
      let on := on.union flag
      if flag.meets Flags.kinds && (on.minus flag).meets Flags.kinds then
        fail "bad inline flags: flags 'a', 'u' and 'L' are incompatible"
      match ← take with
      | .none => fail "missing -, : or )"
      | .plain next =>
        if next == ')' || next == '-' || next == ':' then return (on, next)
        else if (flagOf next).isSome then readFlagsOn fuel next on
        else notAFlag (.plain next) "missing -, : or )"
      | t => notAFlag t "missing -, : or )"

/-- The flags turned off, from a first letter to the colon that ends them. -/
def readFlagsOff : Nat → Char → Flags → Read Flags
  | 0, _, _ => fail "missing :"
  | fuel + 1, c, off => do
    match flagOf c with
    | none => fail "missing :"
    | some flag =>
      if flag.meets Flags.kinds then
        fail "bad inline flags: cannot turn off flags 'a', 'u' and 'L'"
      let off := off.union flag
      match ← take with
      | .none => fail "missing :"
      | .plain next =>
        if next == ':' then return off
        else if (flagOf next).isSome then readFlagsOff fuel next off
        else notAFlag (.plain next) "missing :"
      | t => notAFlag t "missing :"

/-- The flags of a group: for the whole pattern (`none`), or those it turns on and off inside. -/
def readFlags (c : Char) : Read (Option (Flags × Flags)) := do
  let fuel ← restFuel
  let (on, mark) ← if c == '-' then pure (Flags.none, '-') else readFlagsOn fuel c Flags.none
  if mark == ')' then
    modify fun r => { r with flags := r.flags.union on }
    return none
  if on.meets Flags.template then
    fail "bad inline flags: cannot turn on global flag" 1
  let off ← if mark == '-' then
      match ← take with
      | .none => fail "missing flag"
      | .plain next =>
        if (flagOf next).isSome then readFlagsOff (← restFuel) next Flags.none
        else notAFlag (.plain next) "missing flag"
      | t => notAFlag t "missing flag"
    else pure Flags.none
  if off.meets Flags.template then
    fail "bad inline flags: cannot turn off global flag" 1
  if on.meets off then
    fail "bad inline flags: flag turned on and off" 1
  return some (on, off)

/-! ## Groups -/

/-- The wording for a name that cannot name a group. -/
def badGroupName {α : Type} (name : List Char) : Read α :=
  fail ("bad character in group name " ++ String.ofList (Quoted.chars name)) (name.length + 1)

/-- A group name up to its closing mark. -/
def readGroupName (close : Char) : Read (List Char) := do
  let name ← takeUntil close "group name" (← restFuel) []
  if Unicode.isIdentifier name then return name else badGroupName name

/-- The number of a named group that a reference asks for. -/
def groupNamed (name : List Char) : Read Nat := do
  match (← get).names.lookup name with
  | some group => return group
  | none =>
    fail ("unknown group name " ++ String.ofList (Quoted.chars name)) (name.length + 1)

/-- Opens the next group. -/
def openGroup (name : Option (List Char)) : Read Nat := do
  let r ← get
  let group := r.opened + 1
  match name with
  | none => set { r with opened := group }
  | some name =>
    match r.names.lookup name with
    | some earlier =>
      fail ("redefinition of group name " ++ String.ofList (Quoted.chars name) ++ " as group "
        ++ toString group ++ "; was group " ++ toString earlier) (name.length + 1)
    | none => set { r with opened := group, names := (name, group) :: r.names }
  return group

/-- Closes a group around its body. -/
def closeGroup (group : Nat) (body : Tree) : Read Unit :=
  modify fun r => { r with widths := (group, body.width r.widthOf) :: r.widths }

/-- The greatest number of groups. -/
def maxGroups : Nat := 1073741823

/-- The group that a condition asks about, by name or number, behind its opening mark. -/
def readCondition [Machine] : Read Nat := do
  let name ← takeUntil ')' "group name" (← restFuel) []
  if Unicode.isIdentifier name then groupNamed name
  else
    match Integer.ofChars? name with
    | some (.ofNat group) =>
      if group == 0 then fail "bad group number" (name.length + 1)
      if maxGroups ≤ group then
        fail ("invalid group reference " ++ toString group) (name.length + 1)
      modify fun r =>
        if (r.referred.lookup group).isSome then r
        else { r with referred := r.referred ++ [(group, r.pos - name.length - 1)] }
      return group
    | _ => badGroupName name

/-! ## Repetition -/

/-- The bounds of a repetition. -/
structure Bounds where
  min : Nat
  max : Option Nat

/-- The number of rounds that can no longer be counted. -/
def maxRounds : Nat := 4294967295

/-- The number that the digits of a bound spell. -/
def readBound [Machine] (digits : List Char) : Read Nat := do
  if Machine.digits < digits.length then throw .tooManyDigits
  let bound := valueIn 10 digits
  if maxRounds ≤ bound then throw .tooManyRounds
  return bound

/-- Bounds in braces, behind the opening one; `none` when the brace is a plain character. -/
def readBounds [Machine] : Read (Option Bounds) := do
  let here ← get
  if (← peek) == .plain '\x7d' then return none
  let lo ← takeWhile Char.isDigit (← restFuel)
  let hi ← if ← accept ',' then takeWhile Char.isDigit (← restFuel) else pure lo
  unless ← accept '\x7d' do
    set here
    return none
  let least ← readBound lo
  let most ← readBound hi
  if !hi.isEmpty && most < least then
    let r ← get
    fail "min repeat greater than max repeat" (r.pos - here.pos)
  return some ⟨least, if hi.isEmpty then none else some most⟩

/-- The greed that the mark behind a repetition chooses. -/
def readGreed : Read Greed := do
  if ← accept '?' then return .lazy
  else if ← accept '+' then return .possessive
  else return .greedy

/-- One item of an alternative.  A group counts as closed: a repetition of it is no repetition of
what it holds. -/
structure Item where
  tree : Tree
  isGroup : Bool

/-- Repeats the last item.  `back` is the length of the repetition mark. -/
def repeatLast (items : List Item) (bounds : Bounds) (back : Nat) : Read (List Item) := do
  match items.getLast? with
  | none => fail "nothing to repeat" back
  | some item =>
    if !item.isGroup then
      match item.tree with
      | .anchor _ => fail "nothing to repeat" back
      | .rounds _ _ _ _ => fail "multiple repeat" back
      | _ => pure ()
    let greed ← readGreed
    return items.dropLast ++ [⟨.rounds bounds.min bounds.max greed item.tree, false⟩]

/-- The items of an alternative as one tree. -/
def joinItems (items : List Item) : Tree :=
  items.foldr (fun item rest => .seq item.tree rest) .empty

/-! ## Alternatives and items -/

/-- Skips a comment in a verbose pattern. -/
def skipLine : Nat → Read Unit
  | 0 => return ()
  | fuel + 1 => do
    let t ← take
    if t == .none || t == .plain '\n' then return () else skipLine fuel

/-- Skips a comment in a group that opened at `start`. -/
def skipComment (start : Nat) : Nat → Read Unit
  | 0 => return ()
  | fuel + 1 => do
    if (← peek) == .none then
      throw (.malformed "missing ), unterminated comment" (some start))
    if (← take) == .plain ')' then return () else skipComment start fuel

/-- Expects the closing mark of a group that opened at `start`. -/
def closeParen (start : Nat) : Read Unit := do
  unless ← accept ')' do
    throw (.malformed "missing ), unterminated subpattern" (some start))

/-- The tree that matches any character the dot stands for. -/
def dot (f : Flags) : Tree :=
  .one ⟨true, if f.meets Flags.dotAll then [] else [.code 10], .exact⟩

/-- Reads what stands inside a group. -/
def nested [Machine] {α : Type} (body : Read α) : Read α := do
  let r ← get
  if Machine.groups ≤ r.depth then throw .tooDeep
  set { r with depth := r.depth + 1 }
  let a ← body
  modify fun r => { r with depth := r.depth - 1 }
  return a

/-- What a group turned out to be: nothing to add, one more item, or new flags for the rest. -/
inductive Piece where
  | nothing
  | item (item : Item)
  | flags (f : Flags)

mutual

/-- Alternatives up to the end of the pattern or of the group around them. -/
def readBranches [CharNames] [Machine] : Nat → Flags → Bool → Read Tree
  | 0, _, _ => fail "nested too deeply"
  | fuel + 1, f, outermost => do
    let items ← readItems fuel f outermost []
    let first := joinItems items
    if ← accept '|' then
      let r ← get
      let f := if outermost then r.flags else f
      return .alt first (← readBranchesAfter fuel f outermost)
    else
      return first

/-- The alternatives behind a bar.  Flags for the whole pattern come too late here. -/
def readBranchesAfter [CharNames] [Machine] : Nat → Flags → Bool → Read Tree
  | 0, _, _ => fail "nested too deeply"
  | fuel + 1, f, outermost => do
    let items ← readItems fuel f false []
    let first := joinItems items
    if ← accept '|' then
      let r ← get
      let f := if outermost then r.flags else f
      return .alt first (← readBranchesAfter fuel f outermost)
    else
      return first

/-- The items of one alternative.  `leading` says that nothing but flags came before them. -/
def readItems [CharNames] [Machine] : Nat → Flags → Bool → List Item → Read (List Item)
  | 0, _, _, _ => fail "nested too deeply"
  | fuel + 1, f, leading, items => do
    let this ← peek
    if this == .none || this == .plain '|' || this == .plain ')' then return items
    advance
    let one := fun tree => readItems fuel f leading (items ++ [⟨tree, false⟩])
    match this with
    | .none => return items
    | .escaped c => one (← readEscape f c)
    | .plain c =>
      if f.meets Flags.verbose && Category.blank.holds .ascii c then readItems fuel f leading items
      else if f.meets Flags.verbose && c == '#' then
        skipLine (← restFuel)
        readItems fuel f leading items
      else if c == '[' then one (← readSet f)
      else if c == '.' then one (dot f)
      else if c == '^' then
        one (.anchor (if f.meets Flags.multiline then .lineStart else .textStart))
      else if c == '$' then
        one (.anchor (if f.meets Flags.multiline then .lineEnd else .lastLineEnd))
      else if c == '?' then
        readItems fuel f leading (← repeatLast items ⟨0, some 1⟩ 1)
      else if c == '*' then
        readItems fuel f leading (← repeatLast items ⟨0, none⟩ 1)
      else if c == '+' then
        readItems fuel f leading (← repeatLast items ⟨1, none⟩ 1)
      else if c == '\x7b' then
        let here := (← get).pos
        match ← readBounds with
        | none => one (leaf f c.toNat)
        | some bounds =>
          let back := (← get).pos - here + 1
          readItems fuel f leading (← repeatLast items bounds back)
      else if c == '(' then
        match ← readGroup fuel f (leading && items.isEmpty) with
        | .nothing => readItems fuel f leading items
        | .item item => readItems fuel f leading (items ++ [item])
        | .flags f => readItems fuel f leading items
      else one (leaf f c.toNat)

/-- A group, behind its opening mark. -/
def readGroup [CharNames] [Machine] : Nat → Flags → Bool → Read Piece
  | 0, _, _ => fail "nested too deeply"
  | fuel + 1, f, leading => do
    let start := (← get).pos - 1
    if ← accept '?' then
      match ← take with
      | .none => fail "unexpected end of pattern"
      | .escaped c => fail ("unknown extension ?" ++ String.ofList ['\\', c]) 3
      | .plain c =>
        if c == 'P' then
          if ← accept '<' then
            let name ← readGroupName '>'
            readCapture fuel f start (some name)
          else if ← accept '=' then
            let name ← readGroupName ')'
            let group ← groupNamed name
            if !(← get).isClosed group then
              fail "cannot refer to an open group" (name.length + 1)
            checkLookBehind group
            return .item ⟨.same group f.caseRule, false⟩
          else
            match ← take with
            | .none => fail "unexpected end of pattern"
            | t => fail ("unknown extension ?P" ++ String.ofList t.chars) (t.chars.length + 2)
        else if c == ':' then
          let body ← nested (readBranches fuel f false)
          closeParen start
          return .item ⟨body, true⟩
        else if c == '#' then
          skipComment start (← restFuel)
          return .nothing
        else if c == '=' || c == '!' then
          let body ← nested (readBranches fuel f false)
          closeParen start
          return .item ⟨.lookAhead (c == '!') body, false⟩
        else if c == '<' then
          match ← take with
          | .none => fail "unexpected end of pattern"
          | t =>
            if t != .plain '=' && t != .plain '!' then
              fail ("unknown extension ?<" ++ String.ofList t.chars) (t.chars.length + 2)
            let outer := (← get).lookBase
            if outer.isNone then modify fun r => { r with lookBase := some r.opened }
            let body ← nested (readBranches fuel f false)
            modify fun r => { r with lookBase := if outer.isNone then none else r.lookBase }
            closeParen start
            let (least, greatest) := body.width (← get).widthOf
            return .item ⟨.lookBehind least greatest (t == .plain '!') body, false⟩
        else if c == '(' then
          let group ← readCondition
          checkLookBehind group
          let yes ← nested (readItems fuel f false [])
          let no ← if ← accept '|' then
              let no ← nested (readItems fuel f false [])
              if (← peek) == .plain '|' then
                fail "conditional backref with more than two branches"
              pure no
            else pure []
          closeParen start
          return .item ⟨.ifGroup group (joinItems yes) (joinItems no), false⟩
        else if c == '>' then
          let body ← nested (readBranches fuel f false)
          closeParen start
          return .item ⟨.atomic body, false⟩
        else if (flagOf c).isSome || c == '-' then
          match ← readFlags c with
          | none =>
            if !leading then
              throw (.malformed "global flags not at the start of the expression" (some start))
            return .flags (← get).flags
          | some (on, off) =>
            let body ← nested (readBranches fuel (f.within on off) false)
            closeParen start
            return .item ⟨body, true⟩
        else
          fail ("unknown extension ?" ++ String.singleton c) 2
    else
      readCapture fuel f start none

/-- The body of a group that remembers what it matched. -/
def readCapture [CharNames] [Machine] : Nat → Flags → Nat → Option (List Char) → Read Piece
  | 0, _, _, _ => fail "nested too deeply"
  | fuel + 1, f, start, name => do
    let group ← openGroup name
    let body ← nested (readBranches fuel f false)
    closeParen start
    closeGroup group body
    return .item ⟨.capture group body, true⟩

end

/-! ## Whole patterns -/

/-- The name of a way to repeat. -/
def Greed.name : Greed → String
  | .greedy => "MAX_REPEAT"
  | .lazy => "MIN_REPEAT"
  | .possessive => "POSSESSIVE_REPEAT"

/-- The first part of a tree that cannot be matched, from the outside in and from left to right: a
look-behind that has no fixed width, or a repetition in a template. -/
def Tree.fault? (template : Bool) : Tree → Option Fault
  | .empty | .one _ | .anchor _ | .same _ _ => none
  | .seq a b | .alt a b | .ifGroup _ a b =>
    (a.fault? template).orElse fun _ => b.fault? template
  | .capture _ body | .lookAhead _ body | .atomic body => body.fault? template
  | .rounds _ _ greed body =>
    if template then
      some (.malformed ("internal: unsupported template operator " ++ greed.name) none)
    else body.fault? template
  | .lookBehind least greatest _ body =>
    if 4294967295 < least then some (.malformed "looks too much behind" none)
    else if least != greatest then
      some (.malformed "look-behind requires fixed-width pattern" none)
    else body.fault? template

/-- A whole pattern: alternatives, and nothing behind them. -/
def readWhole [CharNames] [Machine] (fuel : Nat) : Read Tree := do
  checkRest
  let tree ← readBranches fuel (← get).flags true
  let r ← get
  unless r.flags.suit r.ofBytes do throw .badFlags
  if (← peek) != .none then fail "unbalanced parenthesis"
  match r.referred.find? fun (group, _) => r.opened < group with
  | some (group, pos) =>
    throw (.malformed ("invalid group reference " ++ toString group) (some pos))
  | none => pure ()
  match tree.fault? (r.flags.meets Flags.template) with
  | some fault => throw fault
  | none => return tree

/-- The tree of a pattern, and the flags that are written with it. -/
def read [CharNames] [Machine] (ofBytes : Bool) (pattern : List Char) (given : Flags) :
    Except Fault (Flags × Tree) :=
  let start : Reading := ⟨pattern, 0, given, [], 0, [], none, [], 0, ofBytes⟩
  match (readWhole (4 * pattern.length + 8)).run start with
  | .error fault => .error fault
  | .ok (tree, r) => .ok (r.flags.written, tree)

end TextSplit.Pattern
