import TextSplit.Settings.Basic
import TextSplit.Value

/-!
# Defaults and names

What holds when nothing is said, and the names under which callers find things.

* `Defaults.named` — the defaults by name.
* `Defaults.exports` — the names that a caller can use.
* `Defaults.version` — the version of the program.
-/

namespace TextSplit.Defaults

/-- The form of a line in the log. -/
def lineFormat : String := "%(asctime)s [%(levelname)s] %(name)s: %(message)s"

/-- The greatest size of a log file in bytes: five times 2 ^ 20. -/
def logFileSize : Nat := 5 * 1024 * 1024

/-- How many earlier log files are kept. -/
def logFileCount : Nat := 3

/-- The column that counts records. -/
def recordColumn : String := "delimit_record_id"

/-- The column of the tokens. -/
def tokenColumn : String := "delimit_token"

/-- The column that counts tokens. -/
def tokenCountColumn : String := "delimit_token_id"

/-- The column of the pairs. -/
def pairsColumn : String := "delimit_pairs"

/-- The endings of the files that can be read as tables. -/
def tableSuffixes : List String := [".txt", ".csv"]

/-- The defaults by name. -/
def named : List (String × Value) :=
  [("DEFAULT_OMIT_EMPTY", .bool (Splitter.plain default).omitEmpty),
   ("DEFAULT_SPLIT_LIMIT", .null),
   ("MAP_ENTRY_FIELDS", .int PairSplitter.fieldCount.1),
   ("DEFAULT_TARGET_COLUMN", .text Settings.defaultTarget),
   ("DEFAULT_DROP_TARGET_COLUMN", .bool false),
   ("DEFAULT_EXPAND_PAIRS", .bool false),
   ("SUPPORTED_FILE_SUFFIXES", .tuple (tableSuffixes.map .text)),
   ("DEFAULT_CONSOLE_LOG_LEVEL", .text Settings.defaultConsoleLevel),
   ("DEFAULT_FILE_LOG_LEVEL", .text Settings.defaultFileLevel),
   ("DEFAULT_LOG_DIR", .text Settings.defaultLogDir),
   ("DEFAULT_LOG_FORMAT", .text lineFormat),
   ("LOG_FILE_MAX_BYTES", .int logFileSize),
   ("LOG_FILE_BACKUP_COUNT", .int logFileCount),
   ("SYSTEM_RECORD_ID_COLUMN", .text recordColumn),
   ("SYSTEM_TOKEN_COLUMN", .text tokenColumn),
   ("SYSTEM_TOKEN_ID_COLUMN", .text tokenCountColumn),
   ("SYSTEM_PAIRS_COLUMN", .text pairsColumn)]

/-- The names that a caller can use. -/
def exports : List String :=
  ["Splitter", "MapSplitter", "SplitCursor", "SplitResult", "CharPredicate", "whitespace",
   "any_of", "is_char", "from_callable", "DelimitConfig", "SplittingConfig", "KeyValueConfig",
   "DataConfig", "LoggingConfig", "DelimitError", "ConfigurationError", "InvalidArgumentError",
   "DataError", "MalformedEntryError", "DuplicateKeyError", "UnsupportedOperationError",
   "FileError"]

/-- The version of the program. -/
def version : String := "0.1.0"

end TextSplit.Defaults
