import TextSplit.PairSplitter

/-!
# Settings

Settings say once and for all how the texts of a table are split: the splitter, the separator of
keys and values if there is one, the column that holds the texts, and where to log.  A value of
this type has passed every check.

* `TableSettings`, `LogSettings` — the two parts that do not concern splitting itself.
* `Settings` — the whole.
* `Settings.pairSplitter?` — the pair splitter, if a separator is set.
-/

namespace TextSplit

/-- How the texts of a table are found, and what becomes of their column. -/
structure TableSettings where
  /-- The column that holds the texts. -/
  target : String
  /-- Whether that column is left out of the result. -/
  dropTarget : Bool
  /-- Whether pairs become columns of their own. -/
  expandPairs : Bool
  deriving DecidableEq, Repr, Inhabited

/-- Where log lines go.  Levels stand as they were written, in any case. -/
structure LogSettings where
  enabled : Bool
  consoleLevel : String
  fileDir : String
  fileName : Option String
  fileLevel : String
  deriving DecidableEq, Repr, Inhabited

/-- Settings that have passed every check. -/
structure Settings where
  splitter : Splitter
  separator : Option Splitter
  table : TableSettings
  log : LogSettings
  deriving Inhabited

namespace Settings

/-- The column of the texts when none is named. -/
def defaultTarget : String := "text"

/-- The level of the console when none is named. -/
def defaultConsoleLevel : String := "INFO"

/-- The level of the log file when none is named. -/
def defaultFileLevel : String := "DEBUG"

/-- The directory of the log file when none is named. -/
def defaultLogDir : String := "delimit_logs"

/-- The pair splitter of the settings. -/
def pairSplitter? (s : Settings) : Option PairSplitter :=
  s.separator.map fun separator => ⟨s.splitter, separator⟩

end Settings

end TextSplit
