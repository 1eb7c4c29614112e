/-!
# Failures

What goes wrong with a basic operation has no wording of its own; only its nature matters.

* `Failure` — the natures.
-/

namespace TextSplit

/-- A failure of a basic operation, without a report of its own. -/
inductive Failure where
  /-- A value of a type that the operation is not made for. -/
  | wrongType
  /-- A value of the right type that makes no sense. -/
  | wrongValue
  /-- A value without the property that is asked for. -/
  | noAttribute
  /-- A name that is not there. -/
  | noKey
  /-- A place outside a text. -/
  | outOfRange
  /-- A number too large to count with. -/
  | overflow
  /-- Nothing left to hand out. -/
  | exhausted
  /-- Bytes that are no text. -/
  | undecodable
  /-- A directory where a file is wanted. -/
  | directory
  /-- A file where a directory is wanted. -/
  | noDirectory
  /-- Something that is in the way of a new directory. -/
  | taken
  /-- A value nested too deeply to go through. -/
  | tooDeep
  /-- A text that is no pattern. -/
  | malformedPattern
  /-- A value that has no written form in a settings file. -/
  | unwritable
  /-- Records that do not fit together. -/
  | malformedTable
  /-- A table file without a header. -/
  | emptyTable
  deriving DecidableEq, Repr, Inhabited

end TextSplit
