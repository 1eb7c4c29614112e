import TextSplit.Path

/-!
# The working directory

Files are looked up in one directory, which may have directories of its own.  What lies outside it
is not known: only the way up exists.

* `Folder` — the directories and files below the working directory.
* `Folder.look` — what a path leads to.
* `Folder.write` — puts bytes at the end of a file, which is made if it is missing.
* `Folder.makeDirectories` — makes a directory and those on the way to it.
-/

namespace TextSplit

/-- The directories and the files below the working directory, by the steps that lead to them. -/
structure Folder where
  directories : List (List String)
  files : List (List String × List UInt8)
  deriving Inhabited

/-- What a path leads to. -/
inductive Place where
  | missing
  | directory
  | file (bytes : List UInt8)
  /-- A step leads through a file. -/
  | blocked
  deriving DecidableEq, Repr, Inhabited

namespace Folder

/-- The folder without anything in it. -/
def empty : Folder := ⟨[], []⟩

/-- The bytes of the file at some steps. -/
def bytes? (f : Folder) (steps : List String) : Option (List UInt8) := f.files.lookup steps

/-- Whether there is a directory at some steps; the working directory is at none. -/
def hasDirectory (f : Folder) (steps : List String) : Bool :=
  steps.isEmpty || f.directories.contains steps

/-- Where steps lead from a directory of the folder. -/
def walk (f : Folder) (here : List String) : List String → Except Place (List String)
  | [] => .ok here
  | step :: rest =>
    if !f.hasDirectory here then
      .error (if (f.bytes? here).isSome then .blocked else .missing)
    else if step = ".." then
      if here.isEmpty then .error (if rest.all (· == "..") then .directory else .missing)
      else walk f here.dropLast rest
    else walk f (here ++ [step]) rest

/-- The steps inside the folder that a path stands for. -/
def resolve (f : Folder) (p : Path) : Except Place (List String) :=
  if p.slashes = 0 then walk f [] p.steps
  else .error (if p.steps.all (· == "..") then .directory else .missing)

/-- What a path leads to. -/
def look (f : Folder) (p : Path) : Place :=
  match f.resolve p with
  | .error place => place
  | .ok steps =>
    if f.hasDirectory steps then .directory
    else
      match f.bytes? steps with
      | some bytes => .file bytes
      | none => .missing

/-- Puts bytes at the end of the file at some steps. -/
def appendAt (steps : List String) (bytes : List UInt8) :
    List (List String × List UInt8) → List (List String × List UInt8)
  | [] => [(steps, bytes)]
  | (s, old) :: rest =>
    if s = steps then (s, old ++ bytes) :: rest else (s, old) :: appendAt steps bytes rest

/-- Puts bytes at the end of a file. -/
def write (f : Folder) (p : Path) (bytes : List UInt8) : Folder :=
  match f.resolve p with
  | .ok steps => { f with files := appendAt steps bytes f.files }
  | .error _ => f

/-- Makes a file hold some bytes and nothing else. -/
def replace (f : Folder) (p : Path) (bytes : List UInt8) : Folder :=
  match f.resolve p with
  | .ok steps => { f with files := (steps, bytes) :: f.files.filter (·.1 != steps) }
  | .error _ => f

/-- The places that steps pass one after another; a step back leads to where the one before it
came from. -/
def passed (here : List String) : List String → List (List String)
  | [] => []
  | step :: rest =>
    let there := if step = ".." then here.dropLast else here ++ [step]
    there :: passed there rest

/-- Makes a directory and those on the way to it. -/
def makeDirectories (f : Folder) (p : Path) : Folder :=
  if p.slashes = 0 then
    let new := (passed [] p.steps).filter fun steps =>
      !f.hasDirectory steps && (f.bytes? steps).isNone
    { f with directories := f.directories ++ new }
  else f

end Folder

end TextSplit
