import TextSplit.Value.Spelling

/-!
# Reports

A report tells a caller what went wrong: a text, and the values that caused it, by name.  Reports
fall into kinds, so that a caller can react to all faults of the data, say, in one place.

* `ReportKind` — the kinds; `ReportKind.above` lists the kinds that a kind belongs to.
* `Report` — a text with details.
* `Report.message` — the whole report on one line.
-/

namespace TextSplit

/-- The kinds of reports. -/
inductive ReportKind where
  /-- Any report. -/
  | any
  /-- An option that cannot be set. -/
  | configuration
  /-- An argument that is missing or of the wrong type. -/
  | argument
  /-- Data that cannot be split as the settings demand. -/
  | data
  /-- An entry that is not one key and one value. -/
  | malformedEntry
  /-- A key seen twice. -/
  | duplicateKey
  /-- An attempt to change tokens. -/
  | unsupported
  /-- A file that cannot be read. -/
  | file
  deriving DecidableEq, Repr, Inhabited

/-- The kinds that a kind belongs to, from the widest to itself. -/
def ReportKind.above : ReportKind → List ReportKind
  | .any => [.any]
  | .malformedEntry => [.any, .data, .malformedEntry]
  | .duplicateKey => [.any, .data, .duplicateKey]
  | k => [.any, k]

/-- A text with the values that belong to it. -/
structure Report where
  kind : ReportKind
  text : String
  details : List (Value × Value)
  deriving Inhabited

namespace Report

/-- The details on one line, in order. -/
def detailLine (details : List (Value × Value)) : String :=
  String.intercalate ", " (details.map fun (k, v) => k.shown ++ "=" ++ v.spelling)

/-- The report on one line: the text, and the details in brackets if there are any. -/
def message (r : Report) : String :=
  if r.details.isEmpty then r.text else r.text ++ " (" ++ detailLine r.details ++ ")"

/-- Adds a detail at the end, unless there is one of that name. -/
def withDetail (r : Report) (name : String) (value : Value) : Report :=
  if (Value.get? r.details name).isSome then r
  else { r with details := r.details ++ [(.text name, value)] }

end Report

end TextSplit
