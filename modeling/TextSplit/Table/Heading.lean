/-!
# Headings

The first row of a sheet names its columns.  Names in a table are unique, so a heading that is empty
or that repeats an earlier one is made into a name of its own.

* `Heading.fill` — the name of a column without a heading.
* `Heading.freeNumbers` — the numbers that tell repeated headings apart.
* `Heading.distinct` — the names of the columns.
-/

namespace TextSplit.Heading

/-- The name of the column at some place: its heading, or its place if that is empty. -/
def fill (heading : String) (place : Nat) : String :=
  if heading.isEmpty then "Unnamed: " ++ toString place else heading

/-- A heading with a number behind it. -/
def numbered (heading : String) (number : Nat) : String := heading ++ "." ++ toString number

/-- Numbers from one on that do not make a heading into another one.  Of as many candidates as there
are headings besides the wanted ones, enough are free. -/
def freeNumbers (headings : List String) (heading : String) (wanted : Nat) : List Nat :=
  (List.range' 1 (wanted + headings.length)).filter fun n =>
    !headings.contains (numbered heading n)

/-- The name of a heading that has been seen a number of times before. -/
def repeated (headings : List String) (heading : String) (seen : Nat) : String :=
  match seen with
  | 0 => heading
  | n + 1 =>
    match (freeNumbers headings heading (n + 1))[n]? with
    | some number => numbered heading number
    | none => heading

/-- The names of the columns.  A column without a heading gives way to those that have one. -/
def distinct (headings : List String) : List String :=
  let filled := headings.zipIdx.map fun (heading, place) => fill heading place
  headings.zipIdx.map fun (heading, place) =>
    let name := fill heading place
    let rivals := if heading.isEmpty then headings else headings.take place
    repeated filled name (rivals.count name)

end TextSplit.Heading
