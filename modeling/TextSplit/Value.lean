import TextSplit.Number.Binary64
import TextSplit.Settings.Basic

/-!
# Values

Settings, table cells and the arguments of callers are values whose type is not known beforehand.
Most are plain data; the rest are things that data can hold but not spell.

* `Value` — the values; `Thing` — those that are no plain data.
* `Value.eqv` — equality of values, under which a truth value equals the number it stands for.
* `Value.isHashable` — whether a value can be a key.
* `Value.isTruthy` — what a value counts for where a truth value is wanted.
* `Value.get?`, `Value.put` — entries of a mapping, which keeps the order of first insertion.
* `Value.kindName` — the name of a value's type in messages.
-/

namespace TextSplit

/-- What a value can hold beside plain data. -/
inductive Thing where
  /-- An object with a text of its own. -/
  | text (s : String)
  /-- A buffer that can grow. -/
  | buffer (contents : String)
  | pattern (p : Pattern)
  /-- A set of pattern flags, which counts as the number of its bits. -/
  | flags (f : Pattern.Flags)
  | test (t : CharTest)
  | charClass (k : CharClass)
  | splitter (s : Splitter)
  | path (p : String)
  | settings (s : Settings)
  | date (year month day : Nat)
  /-- A point in time, with its spellings. -/
  | moment (shown spelled : String)
  /-- A collection without order. -/
  | collection (spelled : String) (size : Nat)
  deriving Inhabited

/-- A value. -/
inductive Value where
  | null
  | bool (b : Bool)
  | int (n : Int)
  | real (x : Binary64)
  | text (s : String)
  | bytes (bs : List UInt8)
  | list (items : List Value)
  | tuple (items : List Value)
  | dict (entries : List (Value × Value))
  | thing (t : Thing)
  deriving Inhabited

namespace Thing

/-- Equality of things of one kind. -/
def eqv : Thing → Thing → Bool
  | .text _, .text _ => false
  | .buffer _, .buffer _ => false
  | .pattern p, .pattern q => p == q
  | .flags f, .flags g => f == g
  | .test t, .test u => t == u
  | .charClass k, .charClass l => k == l
  | .splitter s, .splitter t => s == t
  | .path p, .path q => p == q
  | .settings _, .settings _ => false
  | .date y m d, .date y' m' d' => y == y' && m == m' && d == d'
  | .moment _ s, .moment _ t => s == t
  | .collection s _, .collection t _ => s == t
  | _, _ => false

/-- The name of a thing's type in messages. -/
def kindName : Thing → String
  | .text _ => "Text"
  | .buffer _ => "StringIO"
  | .pattern _ => "Pattern"
  | .flags _ => "RegexFlag"
  | .test t => if t.isMethod then "method_descriptor" else "function"
  | .charClass _ => "CharPredicate"
  | .splitter _ => "Splitter"
  | .path _ => "PosixPath"
  | .settings _ => "DelimitConfig"
  | .date _ _ _ => "date"
  | .moment _ _ => "datetime"
  | .collection _ _ => "set"

end Thing

namespace Value

/-! ## Equality -/

/-- The integer that a value counts as in comparisons, if it counts as one. -/
def asInt? : Value → Option Int
  | .bool b => some (if b then 1 else 0)
  | .int n => some n
  | .thing (.flags f) => some f.bits.toNat
  | _ => none

mutual

/-- Equality of values.  Numbers of all kinds compare by size, and the order of a mapping's
entries does not matter. -/
def eqv : Value → Value → Bool
  | .null, .null => true
  | .text s, .text t => s == t
  | .bytes s, .bytes t => s == t
  | .list xs, .list ys => eqvList xs ys
  | .tuple xs, .tuple ys => eqvList xs ys
  | .dict xs, .dict ys => xs.length == ys.length && eqvEntries xs ys
  | .real x, .real y => x.eqv y
  | .real x, v => match v.asInt? with
    | some n => x.eqInt n
    | none => false
  | .thing (.flags f), v => match v with
    | .real x => x.eqInt f.bits.toNat
    | v => v.asInt? == some (f.bits.toNat : Int)
  | .thing t, .thing u => t.eqv u
  | v, .real x => match v.asInt? with
    | some n => x.eqInt n
    | none => false
  | v, w => match v.asInt?, w.asInt? with
    | some m, some n => m == n
    | _, _ => false

/-- Equality of lists, place by place. -/
def eqvList : List Value → List Value → Bool
  | [], [] => true
  | x :: xs, y :: ys => x.eqv y && eqvList xs ys
  | _, _ => false

/-- Whether every entry has an equal one among others. -/
def eqvEntries : List (Value × Value) → List (Value × Value) → Bool
  | [], _ => true
  | (k, v) :: rest, others =>
    (others.any fun (k', v') => k.eqv k' && v.eqv v') && eqvEntries rest others

end

/-! ## Keys -/

mutual

/-- Whether a value can be a key: what can change cannot, nor what holds it. -/
def isHashable : Value → Bool
  | .list _ => false
  | .dict _ => false
  | .tuple items => allHashable items
  | .thing (.collection _ _) => false
  | .thing (.settings _) => false
  | _ => true

/-- Whether all of several values can be keys. -/
def allHashable : List Value → Bool
  | [] => true
  | v :: rest => v.isHashable && allHashable rest

end

/-- The value of the first entry with a text key. -/
def get? (entries : List (Value × Value)) (key : String) : Option Value :=
  match entries with
  | [] => none
  | (.text k, v) :: rest => if k == key then some v else get? rest key
  | _ :: rest => get? rest key

/-- Sets the value of a key: in place if the key is there, at the end if it is new. -/
def put (entries : List (Value × Value)) (key value : Value) : List (Value × Value) :=
  match entries with
  | [] => [(key, value)]
  | (k, v) :: rest => if k.eqv key then (k, value) :: rest else (k, v) :: put rest key value

/-- The mapping that results from setting entries one after another. -/
def ofEntries (entries : List (Value × Value)) : Value :=
  .dict (entries.foldl (fun done (k, v) => put done k v) [])

/-- The entries of a mapping whose key is not one of the given texts. -/
def without (entries : List (Value × Value)) (keys : List String) : List (Value × Value) :=
  entries.filter fun (k, _) => match k with
    | .text s => !keys.contains s
    | _ => true

/-! ## Kinds and truth -/

/-- What a value counts for where a truth value is wanted: nothing, zero and the empty are false. -/
def isTruthy : Value → Bool
  | .null => false
  | .bool b => b
  | .int n => n != 0
  | .real x => !x.isZero
  | .text s => !s.isEmpty
  | .bytes bs => !bs.isEmpty
  | .list items => !items.isEmpty
  | .tuple items => !items.isEmpty
  | .dict entries => !entries.isEmpty
  | .thing (.flags f) => f.bits != 0
  | .thing (.collection _ size) => size != 0
  | .thing _ => true

/-- The name of a value's type in messages. -/
def kindName : Value → String
  | .null => "NoneType"
  | .bool _ => "bool"
  | .int _ => "int"
  | .real _ => "float"
  | .text _ => "str"
  | .bytes _ => "bytes"
  | .list _ => "list"
  | .tuple _ => "tuple"
  | .dict _ => "dict"
  | .thing t => t.kindName

end Value

end TextSplit
