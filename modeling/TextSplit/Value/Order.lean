import TextSplit.Value

/-!
# Values in order

Some values have an order: numbers by size, texts by code points, lists by their first difference.
Values of different kinds have none, and then several values cannot be put in order either.

* `Value.isBelow?` — whether a value comes before another, if the two can be compared.
* `Value.distinct` — the values without repetitions.
* `Value.sorted?` — the values in ascending order.
-/

namespace TextSplit.Value

/-- The size of a number: a sign for what lies beyond all finite numbers, and a quotient. -/
def size? : Value → Option (Int × Int × Nat)
  | .real .nan => none
  | .real (.infinite negative) => some (if negative then -1 else 1, 0, 1)
  | .real (.finite negative m e) =>
    let whole : Int := m * Nat.pow 2 e.toNat
    some (0, if negative then -whole else whole, Nat.pow 2 (-e).toNat)
  | v => v.asInt?.map fun n => (0, n, 1)

/-- Whether a number is smaller than another. -/
def isSmaller : Int × Int × Nat → Int × Int × Nat → Bool
  | (side, num, den), (side', num', den') =>
    decide (side < side') || (side == side' && decide (num * den' < num' * den))

mutual

/-- Whether a value comes before another. -/
def isBelow? : Value → Value → Option Bool
  | .text s, .text t => some (decide (s < t))
  | .bytes s, .bytes t => some (decide (s < t))
  | .list xs, .list ys => isBelowList? xs ys
  | .tuple xs, .tuple ys => isBelowList? xs ys
  | v, w => match v.size?, w.size? with
    | some m, some n => some (isSmaller m n)
    | _, _ => none

/-- Whether a list comes before another: at the first place where they differ, or by length. -/
def isBelowList? : List Value → List Value → Option Bool
  | [], ys => some !ys.isEmpty
  | _, [] => some false
  | x :: xs, y :: ys => if x.eqv y then isBelowList? xs ys else x.isBelow? y

end

/-- Every value once, where it first stands. -/
def distinct (values : List Value) : List Value :=
  values.foldl (fun kept v => if kept.any (·.eqv v) then kept else kept ++ [v]) []

/-- Puts a value in its place among values in order. -/
def insertSorted? (v : Value) : List Value → Option (List Value)
  | [] => some [v]
  | w :: rest =>
    match v.isBelow? w with
    | none => none
    | some true => some (v :: w :: rest)
    | some false => (insertSorted? v rest).map (w :: ·)

/-- The values in ascending order, if any two of them can be compared. -/
def sorted? (values : List Value) : Option (List Value) :=
  values.foldl (fun done v => done.bind (insertSorted? v)) (some [])

end TextSplit.Value
