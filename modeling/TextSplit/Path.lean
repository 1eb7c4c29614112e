import TextSplit.Text.Parts

/-!
# Paths

A path names a file by the directories on the way to it.  Paths are written with slashes; a slash
too many and a step to the same directory say nothing and are dropped, while a step back is kept.

* `Path` — the root, if there is one, and the steps.
* `Path.ofText`, `Path.shown` — from the written form and to it.
* `Path.append` — the path of a path below another.
* `Path.suffix` — the ending of the last step.
-/

namespace TextSplit

/-- A path: how many slashes it starts with (two mean something of their own), and its steps. -/
structure Path where
  slashes : Nat
  steps : List String
  deriving DecidableEq, Repr, Inhabited

namespace Path

/-- The path that a text names. -/
def ofText (text : String) : Path :=
  let leading := (text.toList.takeWhile (· == '/')).length
  let steps := (Parts.between '/' text.toList).map String.ofList
  ⟨if leading = 2 then 2 else min leading 1, steps.filter fun s => s != "" && s != "."⟩

/-- The written form; a path without steps is the directory itself. -/
def shown (p : Path) : String :=
  if p.slashes = 0 && p.steps.isEmpty then "."
  else String.ofList (List.replicate p.slashes '/') ++ String.intercalate "/" p.steps

/-- The path of `q` seen from `p`; a path with a root is the same from everywhere. -/
def append (p q : Path) : Path :=
  if q.slashes = 0 then ⟨p.slashes, p.steps ++ q.steps⟩ else q

instance : Append Path := ⟨append⟩

/-- The path without its last step. -/
def parent (p : Path) : Path := ⟨p.slashes, p.steps.dropLast⟩

/-- The ending of the last step: from its last dot on, if something stands on both sides of it. -/
def suffix (p : Path) : String :=
  let name := ((p.steps.getLast?).getD "").toList
  let ending := name.reverse.takeWhile (· != '.')
  if ending.isEmpty || name.length ≤ ending.length + 1 then ""
  else String.ofList ('.' :: ending.reverse)

/-- The written form of the path that a text names. -/
def normal (text : String) : String := (ofText text).shown

end Path

end TextSplit
