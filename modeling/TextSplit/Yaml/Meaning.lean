import TextSplit.Text.Base64
import TextSplit.Text.Parts
import TextSplit.Value.Order
import TextSplit.Value.Spelling
import TextSplit.Yaml.Node

/-!
# What the nodes of a settings file mean

A plain text in a settings file means what it looks like: a truth value, a number, a date, nothing,
or else the text itself.  A tag overrides the looks.

* `Meaning` — what a text can mean; `Meaning.ofPlain` goes by the looks.
* `Meaning.value` — the value of a text with a meaning.
* `Node.value` — the value of a node.
-/

namespace TextSplit.Yaml

/-- What a text can mean. -/
inductive Meaning where
  | null
  | truth
  | integer
  | real
  | date
  | text
  /-- Bytes, which only a tag can ask for. -/
  | binary
  /-- The key under which other mappings are merged. -/
  | merge
  /-- The key that stands for the mapping itself. -/
  | self
  deriving DecidableEq, Repr, Inhabited

namespace Meaning

/-! ## Looks -/

/-- Words that mean a truth value, in small letters. -/
def truths : List (String × Bool) :=
  [("yes", true), ("no", false), ("true", true), ("false", false), ("on", true), ("off", false)]

/-- Whether a text is one of some words: in small letters, with a capital, or in capitals. -/
def isWord (words : List String) (text : String) : Bool :=
  words.any fun w => text == w || text == w.capitalize || text == w.toUpper

/-- A text without its sign, and whether the sign is negative. -/
def unsigned : List Char → Bool × List Char
  | '-' :: rest => (true, rest)
  | '+' :: rest => (false, rest)
  | chars => (false, chars)

/-- A digit, or an underscore that only makes a number easier to read. -/
def isPlace (c : Char) : Bool := c.isDigit || c == '_'

/-- Digits, of which the first is one with a property. -/
def isRun (first : Char → Bool) (text : List Char) : Bool :=
  match text with
  | c :: rest => first c && rest.all isPlace
  | [] => false

/-- A part of a number in sixties behind the first. -/
def isSixtieth : List Char → Bool
  | [c] => c.isDigit
  | [c, d] => '0' ≤ c && c ≤ '5' && d.isDigit
  | _ => false

/-- A sign and digits behind the letter of an exponent, if there is one at all. -/
def isExponent : List Char → Bool
  | [] => true
  | e :: sign :: digits =>
    (e == 'e' || e == 'E') && (sign == '-' || sign == '+') && !digits.isEmpty
      && digits.all Char.isDigit
  | _ => false

/-- Whether a text looks like a number with a fraction. -/
def isReal (text : List Char) : Bool :=
  let (_, size) := unsigned text
  let whole := size.takeWhile fun c => isPlace c || c == ':'
  let isWhole := match Parts.between ':' whole with
    | [digits] => isRun Char.isDigit digits
    | digits :: sixtieths => isRun Char.isDigit digits && sixtieths.all isSixtieth
    | [] => false
  let isPointed := match size.drop whole.length with
    | '.' :: rest =>
      let fraction := rest.takeWhile isPlace
      let exponent := rest.drop fraction.length
      isWhole && (if whole.contains ':' then exponent.isEmpty else isExponent exponent)
    | _ => false
  let isSmall := match text with
    | '.' :: rest =>
      let fraction := rest.takeWhile isPlace
      isRun Char.isDigit fraction && isExponent (rest.drop fraction.length)
    | _ => false
  let named := String.ofList size
  isPointed || isSmall || [".inf", ".Inf", ".INF"].contains named
    || [".nan", ".NaN", ".NAN"].contains (String.ofList text)

/-- Whether a text looks like an integer. -/
def isInteger (text : List Char) : Bool :=
  let (_, size) := unsigned text
  let nonZero := fun c : Char => c.isDigit && c != '0'
  let isOf (digit : Char → Bool) (digits : List Char) : Bool :=
    !digits.isEmpty && digits.all fun c => digit c || c == '_'
  match size with
  | ['0'] => true
  | '0' :: 'b' :: digits => isOf (fun c => c == '0' || c == '1') digits
  | '0' :: 'x' :: digits => isOf (fun c => (hexValue? c).isSome) digits
  | '0' :: digits => isOf (fun c => '0' ≤ c && c ≤ '7') digits
  | _ =>
    match Parts.between ':' size with
    | digits :: sixtieths => isRun nonZero digits && sixtieths.all isSixtieth
    | [] => false

/-- The parts of a point in time as they are spelled. -/
structure DateParts where
  year : List Char
  month : List Char
  day : List Char
  /-- Hour, minute, second, fraction of a second, and offset, if a time of day is given. -/
  time : Option (List Char × List Char × List Char × List Char × List Char)
  deriving Repr, Inhabited

/-- One or two digits. -/
def isOneOrTwo (digits : List Char) : Bool :=
  (digits.length == 1 || digits.length == 2) && digits.all Char.isDigit

/-- Exactly so many digits. -/
def isExactly (n : Nat) (digits : List Char) : Bool := digits.length == n && digits.all Char.isDigit

/-- Whether a text is the offset of a time zone: none, a letter, or a sign with hours and perhaps
minutes. -/
def isOffset : List Char → Bool
  | [] => true
  | ['Z'] => true
  | sign :: rest =>
    (sign == '+' || sign == '-')
      && match Parts.between ':' rest with
        | [hours] => isOneOrTwo hours
        | [hours, minutes] => isOneOrTwo hours && isExactly 2 minutes
        | _ => false

/-- The parts of a time of day. -/
def timeParts? (text : List Char) :
    Option (List Char × List Char × List Char × List Char × List Char) :=
  let hour := text.takeWhile Char.isDigit
  match text.drop hour.length with
  | ':' :: m1 :: m2 :: ':' :: s1 :: s2 :: rest =>
    let (fraction, rest) := match rest with
      | '.' :: rest => (rest.takeWhile Char.isDigit, rest.dropWhile Char.isDigit)
      | rest => ([], rest)
    let offset := rest.dropWhile fun c => c == ' ' || c == '\t'
    if isOneOrTwo hour && isExactly 2 [m1, m2] && isExactly 2 [s1, s2] && isOffset offset
        && (rest.isEmpty || !offset.isEmpty) then
      some (hour, [m1, m2], [s1, s2], fraction, offset)
    else none
  | _ => none

/-- The parts of a point in time. -/
def dateParts? (text : List Char) : Option DateParts :=
  let date := text.takeWhile fun c => c.isDigit || c == '-'
  let rest := text.drop date.length
  match Parts.between '-' date with
  | [year, month, day] =>
    if !(isExactly 4 year && isOneOrTwo month && isOneOrTwo day) then none
    else if rest.isEmpty then
      if month.length == 2 && day.length == 2 then some ⟨year, month, day, none⟩ else none
    else
      let time := match rest with
        | 't' :: time | 'T' :: time => some time
        | ' ' :: _ | '\t' :: _ => some (rest.dropWhile fun c => c == ' ' || c == '\t')
        | _ => none
      (time.bind timeParts?).map fun t => ⟨year, month, day, some t⟩
  | _ => none

/-- What a plain text means by its looks. -/
def ofPlain (text : List Char) : Meaning :=
  let word := String.ofList text
  if isWord (truths.map Prod.fst) word then .truth
  else if isReal text then .real
  else if isInteger text then .integer
  else if word == "<<" then .merge
  else if word == "" || word == "~" || isWord ["null"] word then .null
  else if (dateParts? text).isSome then .date
  else if word == "=" then .self
  else .text

/-! ## Values -/

/-- The number that digits spell in a base, if they are digits in it. -/
def inBase (base : Nat) (digits : List Char) : Except Fault Nat :=
  let read := digits.foldl (fun n c => n.bind fun n =>
    (hexValue? c).bind fun d => if d < base then some (base * n + d) else none) (some 0)
  match read with
  | some n => if digits.isEmpty then .error (.failed .wrongValue) else .ok n
  | none => .error (.failed .wrongValue)

/-- Numbers in sixties, the greatest first, as one number. -/
def inSixties (parts : List Nat) : Nat := parts.foldl (fun n part => 60 * n + part) 0

/-- The number that digits spell in base ten, if there are not too many. -/
def inTens [Machine] (digits : List Char) : Except Fault Nat :=
  if Machine.digits < digits.length then .error (.failed .wrongValue) else inBase 10 digits

/-- The integer that a text spells: in base two, eight, ten, sixteen or sixty. -/
def integerOf [Machine] (text : List Char) : Except Fault Int :=
  let (negative, size) := unsigned (text.filter (· != '_'))
  let magnitude : Except Fault Nat := match size with
    | [] => .error (.failed .outOfRange)
    | ['0'] => .ok 0
    | '0' :: 'b' :: digits => inBase 2 digits
    | '0' :: 'x' :: digits => inBase 16 digits
    | '0' :: digits => inBase 8 ('0' :: digits)
    | _ => do
      let parts ← (Parts.between ':' size).mapM inTens
      return inSixties parts
  magnitude.map fun n => if negative then -(n : Int) else n

/-- The number with a fraction that a text spells. -/
def realOf (text : List Char) : Except Fault Binary64 :=
  let (negative, size) := unsigned ((text.filter (· != '_')).map Char.toLower)
  let wrong : Except Fault Binary64 := .error (.failed .wrongValue)
  match size with
  | [] => .error (.failed .outOfRange)
  | ['.', 'i', 'n', 'f'] => .ok (.infinite negative)
  | ['.', 'n', 'a', 'n'] => .ok .nan
  | _ =>
    if size.contains ':' then
      let places := (size.dropWhile (· != '.')).drop 1
      let wholes := Parts.between ':' (size.takeWhile (· != '.'))
      match wholes.mapM (inBase 10), inBase 10 ('0' :: places) with
      | .ok parts, .ok fraction =>
        .ok (.ofDecimal negative (inSixties parts * Nat.pow 10 places.length + fraction)
          (-(places.length : Int)))
      | _, _ => wrong
    else
      match Binary64.readMagnitude negative size with
      | some x => .ok x
      | none => wrong

/-- Whether a year is a leap year. -/
def isLeap (year : Nat) : Bool := year % 4 == 0 && (year % 100 != 0 || year % 400 == 0)

/-- The number of days of a month. -/
def daysIn (year month : Nat) : Nat :=
  if month == 2 then (if isLeap year then 29 else 28)
  else if [4, 6, 9, 11].contains month then 30 else 31

/-- The offset of a time zone in seconds, if one is given. -/
def offsetOf : List Char → Option Int
  | [] => none
  | ['Z'] => some 0
  | sign :: rest =>
    let size : Nat := match (Parts.between ':' rest).map Binary64.digitsValue with
      | [hours] => 3600 * hours
      | [hours, minutes] => 3600 * hours + 60 * minutes
      | _ => 0
    some (if sign == '-' then -(size : Int) else size)

/-- The seconds of a day. -/
def daySeconds : Int := 86400

/-- The spelling of an offset at the end of a point in time. -/
def offsetShown (offset : Int) : String :=
  let minutes := offset.natAbs / 60
  (if offset < 0 then "-" else "+") ++ padded 2 (minutes / 60) ++ ":" ++ padded 2 (minutes % 60)

/-- The spelling of a time zone inside a message. -/
def zoneSpelling (offset : Int) : String :=
  if offset == 0 then "datetime.timezone.utc"
  else
    let span := if offset < 0 then "days=-1, seconds=" ++ toString (daySeconds + offset)
      else "seconds=" ++ toString offset
    "datetime.timezone(datetime.timedelta(" ++ span ++ "))"

/-- The point in time of some parts.  A day that the calendar does not have makes no sense. -/
def dateOf (p : DateParts) : Except Fault Value :=
  let year := Binary64.digitsValue p.year
  let month := Binary64.digitsValue p.month
  let day := Binary64.digitsValue p.day
  let wrong : Except Fault Value := .error (.failed .wrongValue)
  if year == 0 || month == 0 || 12 < month || day == 0 || daysIn year month < day then wrong
  else
    match p.time with
    | none => .ok (.thing (.date year month day))
    | some (hour, minute, second, fraction, offset) =>
      let hour := Binary64.digitsValue hour
      let minute := Binary64.digitsValue minute
      let second := Binary64.digitsValue second
      let fraction := fraction.take 6
      let micro := Binary64.digitsValue (fraction ++ List.replicate (6 - fraction.length) '0')
      let offset := offsetOf offset
      if 24 ≤ hour || 60 ≤ minute || 60 ≤ second || offset.any (daySeconds ≤ ·.natAbs) then wrong
      else
        let tail := if micro != 0 then [second, micro] else if second != 0 then [second] else []
        let numbers := [year, month, day, hour, minute] ++ tail
        let zone := match offset with
          | some offset => ", tzinfo=" ++ zoneSpelling offset
          | none => ""
        let shown := (Thing.date year month day).shown ++ " " ++ padded 2 hour ++ ":"
          ++ padded 2 minute ++ ":" ++ padded 2 second
          ++ (if micro != 0 then "." ++ padded 6 micro else "")
          ++ (offset.map offsetShown).getD ""
        .ok (.thing (.moment shown ("datetime.datetime("
          ++ String.intercalate ", " (numbers.map toString) ++ zone ++ ")")))

/-- The value of a text with a meaning. -/
def value [Machine] (m : Meaning) (text : List Char) : Except Fault Value :=
  match m with
  | .null => .ok .null
  | .truth =>
    match truths.lookup (String.ofList text).toLower with
    | some b => .ok (.bool b)
    | none => .error (.failed .noKey)
  | .integer => Value.int <$> integerOf text
  | .real => Value.real <$> realOf text
  | .date =>
    match dateParts? text with
    | some p => dateOf p
    | none => .error (.failed .noAttribute)
  | .text => .ok (.text (String.ofList text))
  | .binary =>
    match (if text.all (·.toNat < 128) then Base64.decode? text else none) with
    | some bytes => .ok (.bytes bytes)
    | none => refuse
  | .merge | .self => refuse

/-- The meaning that a tag gives to a text. -/
def ofTag (name : String) : Option Meaning :=
  [("tag:yaml.org,2002:null", null), ("tag:yaml.org,2002:bool", truth),
   ("tag:yaml.org,2002:int", integer), ("tag:yaml.org,2002:float", real),
   ("tag:yaml.org,2002:timestamp", date), ("tag:yaml.org,2002:str", text),
   ("tag:yaml.org,2002:binary", binary),
   ("tag:yaml.org,2002:merge", merge), ("tag:yaml.org,2002:value", self)].lookup name

/-- The meaning of a text under a tag. -/
def ofScalar (tag : Tag) (chars : List Char) : Option Meaning :=
  match tag with
  | .implicit => some (ofPlain chars)
  | .quoted => some text
  | .given name => ofTag name

end Meaning

namespace Node

/-- The meaning of a node that is a text. -/
def meaning? : Node → Option Meaning
  | .scalar tag text => Meaning.ofScalar tag text
  | _ => none

/-- The tag of sequences. -/
def sequenceTag : String := "tag:yaml.org,2002:seq"

/-- The tag of mappings. -/
def mappingTag : String := "tag:yaml.org,2002:map"

/-- The tag of mappings of which only the keys count. -/
def setTag : String := "tag:yaml.org,2002:set"

/-- The tags of sequences of mappings with one entry each. -/
def pairsTags : List String := ["tag:yaml.org,2002:omap", "tag:yaml.org,2002:pairs"]

/-- Whether a tag says that a sequence holds single entries. -/
def saysPairs : Tag → Bool
  | .given name => pairsTags.contains name
  | _ => false

mutual

/-- The value of a node. -/
def value [Machine] : Node → Except Fault Value
  | .scalar tag text =>
    match Meaning.ofScalar tag text with
    | some m => m.value text
    | none => refuse
  | .sequence tag items =>
    if tag == .implicit || tag == .given sequenceTag then do
      let items ← values items
      return .list items
    else if saysPairs tag then do
      let pairs ← singleEntries items
      return .list pairs
    else refuse
  | .mapping tag entries => do
    let (merged, own) ← entryValues entries
    if tag == .implicit || tag == .given mappingTag then return Value.ofEntries (merged ++ own)
    else if tag == .given setTag then
      let members := Value.distinct ((merged ++ own).map Prod.fst)
      let spelled := if members.isEmpty then "set()"
        else "\x7b" ++ String.intercalate ", " (Value.spellings members) ++ "\x7d"
      return .thing (.collection spelled members.length)
    else refuse

/-- The values of several nodes. -/
def values [Machine] : List Node → Except Fault (List Value)
  | [] => .ok []
  | n :: rest => do
    let v ← value n
    let more ← values rest
    return v :: more

/-- The entries of mappings with one entry each, in order. -/
def singleEntries [Machine] : List Node → Except Fault (List Value)
  | [] => .ok []
  | .mapping _ [(k, v)] :: rest => do
    let key ← value k
    let v ← value v
    let more ← singleEntries rest
    return .tuple [key, v] :: more
  | _ :: _ => refuse

/-- The entries of a mapping: those that it merges, which come first, and its own. -/
def entryValues [Machine] : List (Node × Node) →
    Except Fault (List (Value × Value) × List (Value × Value))
  | [] => .ok ([], [])
  | (k, v) :: rest =>
    if k.meaning? == some .merge then do
      let merged ← mergedValues v
      let (more, own) ← entryValues rest
      return (merged ++ more, own)
    else do
      let key ← if k.meaning? == some .self then pure (.text "=") else value k
      if !key.isHashable then refuse
      else
        let v ← value v
        let (merged, own) ← entryValues rest
        return (merged, (key, v) :: own)

/-- The entries that a node adds where it is merged. -/
def mergedValues [Machine] : Node → Except Fault (List (Value × Value))
  | .mapping _ entries => do
    let (merged, own) ← entryValues entries
    return merged ++ own
  | .sequence _ items => mergedItems items
  | .scalar _ _ => refuse

/-- The entries that several mappings add where they are merged, those of the last one first. -/
def mergedItems [Machine] : List Node → Except Fault (List (Value × Value))
  | [] => .ok []
  | .mapping _ entries :: rest => do
    let (merged, own) ← entryValues entries
    let more ← mergedItems rest
    return more ++ (merged ++ own)
  | _ :: _ => refuse

end

end Node

end TextSplit.Yaml
