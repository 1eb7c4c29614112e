import TextSplit.Fault

/-!
# Levels of urgency

A note in the log has a level, and a handler passes on what reaches its own.  Levels are named in
capitals, but any case is accepted.

* `Level` — the levels; `Level.rank` puts them in order.
* `Level.check` — the name of a level, in capitals, from a value.
-/

namespace TextSplit

/-- How urgent a note is. -/
inductive Level where
  | notSet
  | debug
  | info
  | warning
  | error
  | critical
  deriving DecidableEq, Repr, Inhabited

namespace Level

/-- The place of a level in the order of urgency. -/
def rank : Level → Nat
  | .notSet => 0
  | .debug => 10
  | .info => 20
  | .warning => 30
  | .error => 40
  | .critical => 50

/-- The name that a level is shown by. -/
def name : Level → String
  | .notSet => "NOTSET"
  | .debug => "DEBUG"
  | .info => "INFO"
  | .warning => "WARNING"
  | .error => "ERROR"
  | .critical => "CRITICAL"

/-- All names under which levels can be asked for. -/
def named : List (String × Level) :=
  [("CRITICAL", .critical), ("FATAL", .critical), ("ERROR", .error), ("WARN", .warning),
   ("WARNING", .warning), ("INFO", .info), ("DEBUG", .debug), ("NOTSET", .notSet)]

/-- The capital of a character, where that is a letter of the basic alphabet.  Two letters outside
it, the `i` without a dot and the long `s`, have their capital there too. -/
def capital (c : Char) : Char :=
  if c = 'ı' then 'I' else if c = 'ſ' then 'S' else c.toUpper

/-- A text in capitals. -/
def capitals (text : String) : String := String.ofList (text.toList.map capital)

/-- The level of a name in any case. -/
def find? (text : String) : Option Level := named.lookup (capitals text)

/-- The name of a level in capitals, from the value of an option. -/
def check (option : String) (given : Value) : Except Fault String :=
  match given with
  | .text s =>
    if (find? s).isSome then .ok (capitals s) else Fault.refuse (.levelUnknown option given)
  | other => Fault.refuse (.levelUnknown option other)

end Level

end TextSplit
