/-!
# Tables of character ranges

A property of the character standard is a set of code points, and every such set here is kept as
a list of ranges in ascending order.

* `covers` — membership in a list of inclusive ranges, which may stop at the first range above.
* `coversStrided` — membership in a list of ranges with a stride, for the alternating blocks in
  which every other code point is a capital.
-/

namespace TextSplit.Unicode

/-- Whether one of the ascending inclusive ranges holds `n`.  The walk ends at the first range that
starts above `n`, so a text of low code points reads only the head of the table. -/
def covers : List (Nat × Nat) → Nat → Bool
  | [], _ => false
  | (lo, hi) :: rest, n => if n < lo then false else if n ≤ hi then true else covers rest n

/-- Whether one of the inclusive ranges `(first, last, step)` holds `n`. -/
def coversStrided (ranges : List (Nat × Nat × Nat)) (n : Nat) : Bool :=
  ranges.any fun (first, last, step) => first ≤ n && n ≤ last && (n - first) % step == 0

end TextSplit.Unicode
