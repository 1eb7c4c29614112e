/-!
# Binary floating-point numbers

The numbers of the 64-bit binary format as exact values: a sign, a natural mantissa and a power of
two.  Everything here is natural-number arithmetic, so nothing is lost between a decimal spelling
and the number it denotes.

* `Binary64.ofRatio` — the number nearest to a quotient, a tie going to the even mantissa.
* `Binary64.ofDecimal` — the number nearest to a decimal.
* `Binary64.shortest` — the fewest decimal digits that lie nearer to a number than to any other.
* `Binary64.spelling` — the spelling with those digits, positional for moderate sizes.
-/

namespace TextSplit

/-- A number of the 64-bit binary format.  A finite one is `± mantissa · 2 ^ exponent` with
`mantissa < 2 ^ 53` and `exponent ≥ -1074`. -/
inductive Binary64 where
  | nan
  | infinite (negative : Bool)
  | finite (negative : Bool) (mantissa : Nat) (exponent : Int)
  deriving DecidableEq, Repr, Inhabited

namespace Binary64

/-- The quotient rounded to the nearest natural number, a tie going to the even one. -/
def roundDiv (num den : Nat) : Nat :=
  let q := num / den
  let r := num % den
  if 2 * r < den then q
  else if den < 2 * r then q + 1
  else if q % 2 == 0 then q else q + 1

/-- `num / den · 2 ^ (-shift)`, rounded to a natural number. -/
def scaled (num den : Nat) (shift : Int) : Nat :=
  if 0 ≤ shift then roundDiv num (den * Nat.pow 2 shift.toNat)
  else roundDiv (num * Nat.pow 2 (-shift).toNat) den

/-- The number nearest to `± num / den`.  The first guess at the exponent is at most one too high,
in which case the mantissa comes out short and the next exponent down is taken. -/
def ofRatio (negative : Bool) (num den : Nat) : Binary64 :=
  if num == 0 then .finite negative 0 (-1074)
  else
    let guess : Int := (Nat.log2 num : Int) - (Nat.log2 den : Int) - 52
    let short := if 0 ≤ guess then num < den * Nat.pow 2 guess.toNat * Nat.pow 2 52
      else num * Nat.pow 2 (-guess).toNat < den * Nat.pow 2 52
    let exponent := max (if short then guess - 1 else guess) (-1074)
    let mantissa := scaled num den exponent
    let (mantissa, exponent) :=
      if mantissa == Nat.pow 2 53 then (Nat.pow 2 52, exponent + 1) else (mantissa, exponent)
    if 971 < exponent then .infinite negative else .finite negative mantissa exponent

/-- The number nearest to `± digits · 10 ^ exponent`.  Beyond four hundred places on either side
of the point no other digit can make a difference. -/
def ofDecimal (negative : Bool) (digits : Nat) (exponent : Int) : Binary64 :=
  let size := exponent + (Nat.toDigits 10 digits).length
  if digits == 0 then .finite negative 0 (-1074)
  else if 400 < size then .infinite negative
  else if size < -400 then .finite negative 0 (-1074)
  else if 0 ≤ exponent then ofRatio negative (digits * Nat.pow 10 exponent.toNat) 1
  else ofRatio negative digits (Nat.pow 10 (-exponent).toNat)

/-- Whether a finite number is the integer `n`. -/
def eqInt : Binary64 → Int → Bool
  | .finite negative m e, n =>
    let signed : Int := if negative then -(m : Int) else m
    if 0 ≤ e then signed * Nat.pow 2 e.toNat == n else signed == n * Nat.pow 2 (-e).toNat
  | _, _ => false

/-- The integer that a number is, if it is one. -/
def whole? : Binary64 → Option Int
  | .finite negative m e =>
    let size := if 0 ≤ e then some (m * Nat.pow 2 e.toNat)
      else if m % Nat.pow 2 (-e).toNat == 0 then some (m / Nat.pow 2 (-e).toNat) else none
    size.map fun n => if negative then -(n : Int) else n
  | _ => none

/-- Numeric equality: the two zeros are equal, and the undefined number equals nothing. -/
def eqv : Binary64 → Binary64 → Bool
  | .nan, _ => false
  | _, .nan => false
  | .finite _ 0 _, .finite _ 0 _ => true
  | x, y => x == y

/-- Whether a number is one of the two zeros. -/
def isZero : Binary64 → Bool
  | .finite _ m _ => m == 0
  | _ => false

/-! ## Shortest decimal digits -/

/-- The decimal grid point nearest to `m · 2 ^ e` among the multiples of `10 ^ k`, when it lies in
the interval of reals that round to that number.  The interval runs half a unit to either side, a
quarter below a power of two, and holds its ends when the mantissa is even. -/
def onGrid (m : Nat) (e k : Int) : Option Nat :=
  -- all quantities over the common denominator `den`, in quarter units
  let up := Nat.pow 2 (max e 0).toNat
  let down := Nat.pow 2 (max (-e) 0).toNat
  let ten := Nat.pow 10 (max k 0).toNat
  let tenDown := Nat.pow 10 (max (-k) 0).toNat
  let value := 4 * m * up * tenDown
  let unit := up * tenDown
  let step := 4 * down * ten
  let below := if m == Nat.pow 2 52 && -1074 < e then unit else 2 * unit
  let lo := value - below
  let hi := value + 2 * unit
  let inside := fun x => if m % 2 == 0 then lo ≤ x && x ≤ hi else lo < x && x < hi
  let floor := value / step
  let under := floor * step
  let above := (floor + 1) * step
  match floor != 0 && inside under, inside above with
  | true, true =>
    if value - under < above - value then some floor
    else if above - value < value - under then some (floor + 1)
    else if floor % 2 == 0 then some floor else some (floor + 1)
  | true, false => some floor
  | false, true => some (floor + 1)
  | false, false => none

/-- Tries the grids from coarse to fine. -/
def shortestFrom (m : Nat) (e : Int) : Nat → Int → Nat × Int
  | 0, k => (0, k)
  | tries + 1, k =>
    match onGrid m e k with
    | some digits => (digits, k)
    | none => shortestFrom m e tries (k - 1)

/-- The digits and the power of ten of the shortest decimal that reads back as `m · 2 ^ e`.  The
walk starts one place above the number's leading digit. -/
def shortest (m : Nat) (e : Int) : Nat × Int :=
  let bits : Int := (Nat.log2 m : Int) + e
  let top : Int := Int.fdiv (bits * 30103) 100000 + 2
  shortestFrom m e 24 top

/-- A number's digits without the zeros at their end, and the power of ten adjusted. -/
def dropZeros : Nat → Nat → Int → Nat × Int
  | 0, digits, k => (digits, k)
  | fuel + 1, digits, k =>
    if digits != 0 && digits % 10 == 0 then dropZeros fuel (digits / 10) (k + 1) else (digits, k)

/-- The spelling of digits with the point after place `point`: positional with at least one place
on either side while the point stays from three places before the digits to sixteen after their
start, and with a signed exponent of two digits or more elsewhere. -/
def place (digits : List Char) (point : Int) : List Char :=
  if -3 ≤ point && point ≤ 16 then
    if point ≤ 0 then '0' :: '.' :: List.replicate (-point).toNat '0' ++ digits
    else
      let n := point.toNat
      if digits.length ≤ n then digits ++ List.replicate (n - digits.length) '0' ++ ['.', '0']
      else digits.take n ++ '.' :: digits.drop n
  else
    let exponent := point - 1
    let tail := Nat.toDigits 10 exponent.natAbs
    let filled := if tail.length < 2 then '0' :: tail else tail
    let head := match digits with
      | [d] => [d]
      | d :: rest => d :: '.' :: rest
      | [] => []
    head ++ 'e' :: (if exponent < 0 then '-' else '+') :: filled

/-- The spelling of a number with the fewest digits that read back as it. -/
def spelling : Binary64 → String
  | .nan => "nan"
  | .infinite negative => if negative then "-inf" else "inf"
  | .finite negative m e =>
    let magnitude :=
      if m == 0 then ['0', '.', '0']
      else
        let (digits, k) := shortest m e
        let (digits, k) := dropZeros 20 digits k
        let shown := Nat.toDigits 10 digits
        place shown (shown.length + k)
    String.ofList (if negative then '-' :: magnitude else magnitude)

/-! ## Reading a decimal spelling -/

/-- The value of a run of decimal digits. -/
def digitsValue (digits : List Char) : Nat :=
  digits.foldl (fun n c => 10 * n + (c.toNat - '0'.toNat)) 0

/-- Reads digits with at most one point. -/
def ofPlaces (negative : Bool) (places : List Char) (exponent : Int) : Option Binary64 :=
  let whole := places.takeWhile Char.isDigit
  let rest := places.dropWhile Char.isDigit
  let fraction := match rest with
    | [] => some []
    | '.' :: digits => if digits.all Char.isDigit then some digits else none
    | _ => none
  match fraction with
  | none => none
  | some fraction =>
    if whole.isEmpty && fraction.isEmpty then none
    else some (ofDecimal negative (digitsValue (whole ++ fraction)) (exponent - fraction.length))

/-- Reads a signed exponent. -/
def readExponent : List Char → Option Int
  | '-' :: digits =>
    if !digits.isEmpty && digits.all Char.isDigit then some (-(digitsValue digits : Int)) else none
  | '+' :: digits =>
    if !digits.isEmpty && digits.all Char.isDigit then some (digitsValue digits) else none
  | digits => if !digits.isEmpty && digits.all Char.isDigit then some (digitsValue digits) else none

/-- Reads an unsigned decimal: places, and perhaps an exponent behind a letter. -/
def readMagnitude (negative : Bool) (text : List Char) : Option Binary64 :=
  let places := text.takeWhile fun c => c != 'e' && c != 'E'
  match text.dropWhile fun c => c != 'e' && c != 'E' with
  | [] => ofPlaces negative places 0
  | _ :: exponent => (readExponent exponent).bind (ofPlaces negative places)

/-- Reads the spelling of a number. -/
def ofSpelling? (s : String) : Option Binary64 :=
  match s with
  | "nan" => some .nan
  | "inf" => some (.infinite false)
  | "-inf" => some (.infinite true)
  | _ =>
    match s.toList with
    | '-' :: rest => readMagnitude true rest
    | '+' :: rest => readMagnitude false rest
    | rest => readMagnitude false rest

end Binary64

end TextSplit
