/-!
# The machine

The machine that runs the program bears only so much: numbers have no text if they have too many digits,
and what is nested too deeply cannot be gone through.  Where the bounds lie is not for the program to say,
so they are a parameter.

* `Machine` — the bounds.
-/

namespace TextSplit

/-- How much the machine bears. -/
class Machine where
  /-- The most digits of a number that is read from a text or written into one. -/
  digits : Nat
  /-- How deep the groups of a pattern may be nested. -/
  groups : Nat
  /-- How deep a value may be nested that stands for a directory. -/
  directory : Nat
  /-- How deep the parts of a value may be nested that a report spells. -/
  report : Nat

/-- The bounds that hold unless others are named. -/
instance Machine.standard : Machine := ⟨4300, 450, 900, 899⟩

end TextSplit
