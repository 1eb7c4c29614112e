import TextSplit.Machine
import TextSplit.Report

/-!
# Faults

Everything that can go wrong is a value of one type.  Most faults have a cause that is reported to
the caller in words; the others are failures of a more basic operation, and only their nature
matters.

* `Cause` — the causes that are reported; `Cause.report` is their wording, and `Cause.spelled` the
  values in it.
* `Fault` — a cause or a failure, and a cause that arose in a record of a table.
* `Fault.told` — what becomes of a cause whose wording the machine cannot make.
* `Report.ofDetails` — a report as a caller makes one.
-/

namespace TextSplit

/-- A fault that is reported in words. -/
inductive Cause where
  -- character classes
  | classNotPlain (tests : List String)
  | classFieldsUnknown (fields : List Value)
  | anyOfNoText (given : Value)
  | charNotSingle (given : Value)
  | noClass (given : Value)
  -- delimiters
  | delimiterCharNotSingle (given : Value)
  | separatorEmpty (given : Value)
  | noPattern (given : Value)
  | patternMatchesEmpty (source : Value)
  | patternMalformed (source : Value) (wording : String)
  | lengthNotPositive (given : Value)
  | delimiterClassExpected (given : Value)
  | delimiterNoMapping (given : Value)
  | delimiterTypeMissing
  | delimiterTypeUnknown (given : Value)
  | delimiterFieldMissing (type : Value) (field : String) (entries : List (Value × Value))
  -- splitters
  | separatorNull
  | patternNull
  | separatorUnusable (given : Value)
  | limitNotPositive (given : Value)
  | splitterNoMapping (given : Value)
  | trimUnusable (given : Value)
  | textNull (splitter : String)
  | readOnly (index : Value)
  -- pair splitters
  | pairSeparatorNull
  | pairSeparatorEmpty
  | pairPartNoSplitter (part : String) (given : Value)
  | pairSectionsMissing (given : Value)
  | entryMalformed (entry : String) (fields : List String)
  | keyDuplicate (key entry : String)
  -- settings
  | splitterSectionUnusable (name : String) (given : Value)
  | tableSectionUnusable (given : Value)
  | logSectionUnusable (given : Value)
  | splitterRequired
  | splitterExpected (given : Value)
  | separatorExpected (given : Value)
  | targetUnusable (given : Value)
  | flagUnusable (name : String) (given : Value)
  | logFlagUnusable (given : Value)
  | levelUnknown (name : String) (given : Value)
  | fileNameUnusable (given : Value)
  | settingsNoMapping (given : Value)
  | settingsUnusable (given : Value)
  | separatorNotSet
  | settingsFileMissing (path : String)
  | settingsFileMalformed (path : String)
  -- tables
  | sourceUnsupported (given : Value)
  | targetMissing (target : String) (columns : List Value)
  | suffixUnsupported (path suffix : String)
  | fileUnreadable (path reason : String)
  | pairsNotSet
  | keysClash (columns : List Value)
  deriving Inhabited

namespace Cause

/-- The names of the kinds of delimiters, as settings spell them. -/
def delimiterTypes : List String := ["char", "char_class", "fixed_length", "pattern", "string"]

/-- The advice that lists the kinds of delimiters. -/
def oneOfTypes : Value :=
  .text ("Use one of " ++ (Value.list (delimiterTypes.map .text)).spelling)

/-- The wording of a cause. -/
def report : Cause → Report
  | .classNotPlain tests =>
    config "Predicates built from callables cannot be serialized."
      [("functions", .list (tests.map .text))]
  | .classFieldsUnknown fields =>
    config ("Unknown predicate fields: " ++ (Value.list fields).spelling)
      [("fields", .list fields), advice "Use 'whitespace' and/or 'any_of'"]
  | .anyOfNoText given =>
    config "any_of must be a string of characters." [("any_of", given)]
  | .charNotSingle given =>
    config "is_char expects a single character." [("char", given)]
  | .noClass given =>
    config ("Cannot use " ++ given.kindName ++ " as a character predicate.")
      [("value", given), advice "Pass a CharPredicate, a string of characters, or a callable"]
  | .delimiterCharNotSingle given =>
    config "CharDelimiter requires exactly one character."
      [("char", given), advice "Use StringDelimiter for longer separators"]
  | .separatorEmpty given =>
    config "The separator may not be the empty string."
      [("separator", given), advice "Provide a non-empty separator"]
  | .noPattern given =>
    config "PatternDelimiter requires a compiled regular expression."
      [("pattern", given), advice "Use Splitter.on_pattern() for pattern strings"]
  | .patternMatchesEmpty source =>
    config ("The pattern may not match the empty string: " ++ source.spelling)
      [("pattern", source)]
  | .patternMalformed source wording =>
    config ("Invalid regular expression: " ++ source.spelling)
      [("pattern", source), ("regex_error", .text wording)]
  | .lengthNotPositive given =>
    config "The length may not be less than 1."
      [("length", given), advice "Use a positive integer"]
  | .delimiterClassExpected given =>
    config "CharClassDelimiter requires a CharPredicate."
      [("predicate_type", .text given.kindName)]
  | .delimiterNoMapping given =>
    config ("Delimiter config must be a dictionary, got " ++ given.kindName)
      [("config_type", .text given.kindName)]
  | .delimiterTypeMissing =>
    config "Delimiter config must include a 'type' field." [("suggestion", oneOfTypes)]
  | .delimiterTypeUnknown given =>
    config ("Unknown delimiter type: " ++ given.shown)
      [("type", given), ("suggestion", oneOfTypes)]
  | .delimiterFieldMissing type field entries =>
    config (type.shown ++ " config requires a '" ++ field ++ "' field.")
      [("config", .dict entries)]
  | .separatorNull => argument "separator may not be None." []
  | .patternNull => argument "pattern may not be None." []
  | .separatorUnusable given =>
    config ("Cannot split on a " ++ given.kindName ++ ".")
      [("separator", given), advice "Use a str, a compiled re.Pattern, or a CharPredicate"]
  | .limitNotPositive given =>
    config ("limit must be greater than zero: " ++ given.spelling)
      [("limit", given), advice "Use a positive integer"]
  | .splitterNoMapping given =>
    config ("Splitter config must be a dictionary, got " ++ given.kindName)
      [("config_type", .text given.kindName)]
  | .trimUnusable given =>
    config ("Invalid trim setting: " ++ given.spelling)
      [("trim", given),
        advice "Use true, 'whitespace', or \x7b'any_of': ..., 'whitespace': ...\x7d"]
  | .textNull splitter => argument "Cannot split None." [("splitter", .text splitter)]
  | .readOnly index =>
    ⟨.unsupported, "Split results are read-only.", named [("index", index)]⟩
  | .pairSeparatorNull => argument "The key/value separator may not be None." []
  | .pairSeparatorEmpty =>
    config "The key/value separator may not be the empty string." [("separator", .text "")]
  | .pairPartNoSplitter part given =>
    config (part ++ " must be a Splitter.") [(part, .text given.kindName)]
  | .pairSectionsMissing given =>
    config "MapSplitter config requires 'entries' and 'key_value' sections." [("config", given)]
  | .entryMalformed entry fields =>
    ⟨.malformedEntry, "Chunk [" ++ entry ++ "] is not a valid entry",
      named [("entry", .text entry), ("fields", .list (fields.map .text))]⟩
  | .keyDuplicate key entry =>
    ⟨.duplicateKey, "Duplicate key [" ++ key ++ "] found.",
      named [("key", .text key), ("entry", .text entry)]⟩
  | .splitterSectionUnusable name given =>
    config (name ++ " config must be a dictionary, got " ++ given.kindName)
      [("config_type", .text given.kindName),
        advice ("Use dict format or omit the " ++ name ++ " section entirely")]
  | .tableSectionUnusable given =>
    config ("Data config must be a dictionary, got " ++ given.kindName)
      [("config_type", .text given.kindName),
        advice "Use dict format or omit data section entirely"]
  | .logSectionUnusable given =>
    config ("Logging config must be a dictionary, got " ++ given.kindName)
      [("config_type", .text given.kindName),
        advice "Use dict format or omit logging section entirely"]
  | .splitterRequired =>
    config "A splitter is required."
      [advice "Add a 'splitting' section, e.g. \x7btype: char, separator: ','\x7d"]
  | .splitterExpected given =>
    config "splitter must be a Splitter instance." [("splitter_type", .text given.kindName)]
  | .separatorExpected given =>
    config "separator must be a Splitter instance or None."
      [("separator_type", .text given.kindName),
        advice "Use a Splitter or None for plain token splitting"]
  | .targetUnusable given =>
    config "target_column must be a non-empty string."
      [("target_column", given), advice "Provide a valid column name"]
  | .flagUnusable name given =>
    config (name ++ " must be a boolean.") [(name, given), advice "Use True or False"]
  | .logFlagUnusable given =>
    config "logging.enabled must be a boolean." [("enabled", given), advice "Use True or False"]
  | .levelUnknown name given =>
    config (name ++ " must be a logging level name, got " ++ given.spelling)
      [(name, given), advice "Use DEBUG, INFO, WARNING, ERROR or CRITICAL"]
  | .fileNameUnusable given =>
    config "file_name must be a non-empty string or None."
      [("file_name", given), advice "Omit file_name for console-only logging"]
  | .settingsNoMapping given =>
    config ("Config must be a dictionary, got " ++ given.kindName)
      [("config_type", .text given.kindName)]
  | .settingsUnusable given =>
    config ("Cannot build a DelimitConfig from " ++ given.kindName)
      [("config_type", .text given.kindName),
        advice "Pass a DelimitConfig, a dict, or a YAML path"]
  | .separatorNotSet =>
    config "No key/value separator configured."
      [advice "Add a 'key_value' section to the config"]
  | .settingsFileMissing path =>
    config ("YAML config file does not exist: " ++ path)
      [("file_path", .text path), advice "Check the file path or create the config file"]
  | .settingsFileMalformed path =>
    config ("Failed to parse YAML config file: " ++ path)
      [("file_path", .text path), ("parse_error", .text "<yaml>")]
  | .sourceUnsupported given =>
    data ("Unsupported data source: " ++ given.kindName)
      [("data_type", .text given.kindName), advice "Pass a DataFrame or a file path"]
  | .targetMissing target columns =>
    data ("Target column " ++ target ++ " not found in data")
      [("target_column", .text target), ("columns", .list columns)]
  | .suffixUnsupported path suffix =>
    ⟨.file, "Unsupported file type: " ++ suffix,
      named [("file_path", .text path), ("file_extension", .text suffix),
        advice ("Use one of " ++ (Value.tuple [.text ".txt", .text ".csv"]).spelling)]⟩
  | .fileUnreadable path reason =>
    ⟨.file, "Cannot read " ++ path ++ ": " ++ reason, named [("file_path", .text path)]⟩
  | .pairsNotSet =>
    config "Cannot split pairs without a key/value separator"
      [advice "Add a 'key_value' section to the config"]
  | .keysClash columns =>
    data "Split keys clash with existing columns"
      [("columns", .list columns), advice "Rename the columns or set expand_pairs=False"]
where
  named (details : List (String × Value)) : List (Value × Value) :=
    details.map fun (name, value) => (.text name, value)
  advice (text : String) : String × Value := ("suggestion", .text text)
  config (text : String) (details : List (String × Value)) : Report :=
    ⟨.configuration, text, named details⟩
  argument (text : String) (details : List (String × Value)) : Report :=
    ⟨.argument, text, named details⟩
  data (text : String) (details : List (String × Value)) : Report :=
    ⟨.data, text, named details⟩

/-- The values that the text of a report spells. -/
def spelled : Cause → List Value
  | .classFieldsUnknown fields => [.list fields]
  | .patternMatchesEmpty source | .patternMalformed source _ => [source]
  | .delimiterTypeUnknown given => [given]
  | .delimiterFieldMissing type _ _ => [type]
  | .limitNotPositive given | .trimUnusable given | .levelUnknown _ given => [given]
  | _ => []

/-- Why the text of a report cannot be made, if it cannot: the machine cannot spell one of its values. -/
def untold? [Machine] (cause : Cause) : Option Failure :=
  cause.spelled.findSome? (Value.unspelled? Machine.digits (Machine.report + 1))

end Cause

/-- What went wrong. -/
inductive Fault where
  | reported (cause : Cause)
  /-- A cause that arose in a record of a table. -/
  | inRecord (record : Nat) (cause : Cause)
  | failed (failure : Failure)
  deriving Inhabited

namespace Fault

/-- Gives up for a cause that is reported. -/
def refuse {α : Type} (cause : Cause) : Except Fault α := .error (.reported cause)

/-- Gives up because of a failure. -/
def fail {α : Type} (failure : Failure) : Except Fault α := .error (.failed failure)

/-- The column, and the detail, that counts records. -/
def recordColumn : String := "delimit_record_id"

/-- The report of a fault, if it has one. -/
def report? : Fault → Option Report
  | .reported cause => some cause.report
  | .inRecord record cause => some (cause.report.withDetail recordColumn (.int record))
  | .failed _ => none

/-- A fault of the data is marked with the record that it arose in; other faults stay. -/
def atRecord (record : Nat) : Fault → Fault
  | .reported cause =>
    if cause.report.kind.above.contains .data then .inRecord record cause else .reported cause
  | fault => fault

/-- What a caller is told.  If the text of a report cannot be made, that failure is all there is. -/
def told [Machine] : Fault → Fault
  | .reported cause =>
    match cause.untold? with
    | some failure => .failed failure
    | none => .reported cause
  | fault => fault

end Fault

/-- The report with details that a caller hands in, which have to be a mapping if there are any. -/
def Report.ofDetails (kind : ReportKind) (text : String) (details : Value) : Except Fault Report :=
  match details with
  | .dict entries => .ok ⟨kind, text, entries⟩
  | other => if other.isTruthy then Fault.fail .noAttribute else .ok ⟨kind, text, []⟩

end TextSplit
