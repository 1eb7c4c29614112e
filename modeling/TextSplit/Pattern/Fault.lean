import TextSplit.Failure

/-!
# Why a text is no pattern

A fault of the pattern's own syntax has a wording and mostly a place; the wording is completed by
the place, and by line and column when the pattern runs over several lines.

* `Pattern.Fault` — the faults; `Fault.wording` completes the wording.
* `Fault.failure?` — the nature of a fault that is not one of syntax.
-/

namespace TextSplit.Pattern

/-- Why a text cannot be read as a pattern. -/
inductive Fault where
  /-- The text breaks the syntax, at a place of it or as a whole. -/
  | malformed (wording : String) (pos : Option Nat)
  /-- A repetition asks for more rounds than can be counted. -/
  | tooManyRounds
  /-- The flags exclude one another, or have no meaning for a text. -/
  | badFlags
  /-- The flags are a number too large to be kept. -/
  | tooManyFlags
  /-- A number has too many digits to be read. -/
  | tooManyDigits
  /-- The groups are nested too deeply. -/
  | tooDeep
  deriving DecidableEq, Repr, Inhabited

/-- The line of a place, from one, and its column, from one. -/
def lineAndColumn (pattern : List Char) (pos : Nat) : Nat × Nat :=
  let before := pattern.take pos
  (before.count '\n' + 1, (before.reverse.takeWhile (· != '\n')).length + 1)

/-- The full wording of a syntax fault. -/
def Fault.wording (pattern : List Char) : Fault → String
  | .malformed wording none => wording
  | .malformed wording (some pos) =>
    let placed := wording ++ " at position " ++ toString pos
    if pattern.contains '\n' then
      let (line, column) := lineAndColumn pattern pos
      placed ++ " (line " ++ toString line ++ ", column " ++ toString column ++ ")"
    else
      placed
  | .tooManyRounds => "the repetition number is too large"
  | .badFlags => "the flags are incompatible"
  | .tooManyFlags => "the number of the flags is too large"
  | .tooManyDigits => "the number has too many digits"
  | .tooDeep => "the groups are nested too deeply"

/-- The failure that a fault comes to, unless it is one of syntax. -/
def Fault.failure? : Fault → Option Failure
  | .malformed _ _ => none
  | .badFlags | .tooManyDigits => some .wrongValue
  | .tooManyRounds | .tooManyFlags => some .overflow
  | .tooDeep => some .tooDeep

end TextSplit.Pattern
