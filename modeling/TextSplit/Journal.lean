import TextSplit.Defaults
import TextSplit.Folder
import TextSplit.Journal.Template
import TextSplit.Settings.Draft
import TextSplit.Text.Utf8

/-!
# The journal

The journal is where notes go.  It hands them to its handlers: one for the console, and one for a
file if that is asked for.  The first request for handlers is met, and so is one that insists; all
others are noted and otherwise ignored, until the journal is told to forget that it was configured.

* `Journal` — whether it counts as configured, its handlers, and the folder they write to.
* `LogRequest` — what a caller asks for.
* `Journal.log` — hands a note to the handlers.
* `Journal.configure`, `Journal.reset`, `Journal.apply` — what changes the handlers.
-/

namespace TextSplit

/-! ## Handlers -/

/-- Where notes of some level go. -/
inductive Handler where
  | console (level : Level)
  | file (level : Level) (path : Path) (template : List Template.Piece)
  deriving Inhabited

namespace Handler

/-- The level that a note has to reach. -/
def level : Handler → Level
  | .console level => level
  | .file level _ _ => level

/-- The folder after a note has been handed over.  A template that does not fit the note writes
nothing. -/
def write (now : String) (n : Note) (f : Folder) : Handler → Folder
  | .console _ => f
  | .file level path template =>
    if level.rank ≤ n.level.rank then
      match Template.line? template now n with
      | some line => f.write path (Utf8.encode (line ++ "\n"))
      | none => f
    else f

end Handler

/-! ## Requests -/

/-- What a caller asks for. -/
structure LogRequest where
  consoleLevel : Value
  fileDir : Value
  fileName : Value
  fileLevel : Value
  format : Value
  force : Value

namespace LogRequest

/-- The request that says nothing. -/
def standard : LogRequest :=
  ⟨.text Settings.defaultConsoleLevel, .text Settings.defaultLogDir, .null,
    .text Settings.defaultFileLevel, .text Defaults.lineFormat, .bool false⟩

/-- The request with the given fields, whose names have to be known. -/
def ofFields (fields : List (Value × Value)) : Except Fault LogRequest := do
  checkNames ["console_level", "file_dir", "file_name", "file_level", "fmt", "force"] fields
  return ⟨(Value.get? fields "console_level").getD standard.consoleLevel,
    (Value.get? fields "file_dir").getD standard.fileDir,
    (Value.get? fields "file_name").getD standard.fileName,
    (Value.get? fields "file_level").getD standard.fileLevel,
    (Value.get? fields "fmt").getD standard.format,
    (Value.get? fields "force").getD standard.force⟩

/-- The request that a section of settings makes. -/
def ofDraft (d : LogDraft) : LogRequest :=
  { standard with
    consoleLevel := d.consoleLevel, fileDir := d.fileDir, fileName := d.fileName,
    fileLevel := d.fileLevel }

/-- A level that has to be known. -/
def levelOf (option : String) (given : Value) : Except Fault Level := do
  let name ← Level.check option given
  return (Level.find? name).getD .notSet

/-- A path that a value names. -/
def pathOf : Value → Except Fault Path
  | .text p => .ok (Path.ofText p)
  | .thing (.path p) => .ok (Path.ofText p)
  | _ => Fault.fail .wrongType

/-- The path of the log file, if one is asked for. -/
def path? (r : LogRequest) : Except Fault (Option Path) :=
  if r.fileName.isTruthy then do
    let dir ← match r.fileDir with
      | .null => pathOf (.text Settings.defaultLogDir)
      | given => pathOf given
    let name ← pathOf r.fileName
    return some (dir ++ name)
  else .ok none

/-- The template of the lines.  One that says nothing stands for the note's own text. -/
def template (r : LogRequest) : Except Fault (List Template.Piece) :=
  if r.format.isTruthy then
    match r.format with
    | .text format =>
      if Template.isUsable format then .ok (Template.ofText format) else Fault.fail .wrongValue
    | _ => Fault.fail .wrongValue
  else .ok (Template.ofText "%(message)s")

/-- The folder with a directory that was missing. -/
def withDirectory (f : Folder) (p : Path) : Except Fault Folder :=
  if p.shown.toList.contains '\x00' then Fault.fail .wrongValue
  else
    match f.look p with
    | .directory => .ok f
    | .missing => .ok (f.makeDirectories p)
    | .file _ => Fault.fail .taken
    | .blocked => Fault.fail .noDirectory

/-- The folder with a file that was missing.  There may be no directory in its place. -/
def withFile (f : Folder) (p : Path) : Except Fault Folder :=
  if p.shown.toList.contains '\x00' then Fault.fail .wrongValue
  else
    match f.look p with
    | .file _ | .missing => .ok (f.write p [])
    | .directory | .blocked => Fault.fail .wrongValue

/-- The handlers that a request describes, and the folder with the log file in it.  The directory of
the file is made before the rest of the request is checked. -/
def install (r : LogRequest) (f : Folder) : Except Fault (List Handler) × Folder :=
  match levelOf "console_level" r.consoleLevel, r.path? with
  | .error fault, _ => (.error fault, f)
  | .ok _, .error fault => (.error fault, f)
  | .ok consoleLevel, .ok none => (r.template.map fun _ => [.console consoleLevel], f)
  | .ok consoleLevel, .ok (some path) =>
    match withDirectory f path.parent with
    | .error fault => (.error fault, f)
    | .ok f =>
      let opened : Except Fault (List Handler × Folder) := do
        let fileLevel ← levelOf "file_level" r.fileLevel
        let template ← r.template
        let f ← withFile f path
        return ([.console consoleLevel, .file fileLevel path template], f)
      match opened with
      | .error fault => (.error fault, f)
      | .ok (handlers, f) => (.ok handlers, f)

end LogRequest

/-! ## The journal -/

/-- Where notes go. -/
structure Journal where
  /-- Whether handlers have been installed since the journal was last told to forget that. -/
  configured : Bool
  handlers : List Handler
  folder : Folder
  deriving Inhabited

namespace Journal

/-- The journal before anything has been asked of it. -/
def start (f : Folder) : Journal := ⟨false, [], f⟩

/-- The journal passes notes on to others as long as it has no handlers of its own. -/
def passesOn (j : Journal) : Bool := j.handlers.isEmpty

/-- The level that a note has to reach to be considered at all. -/
def level (j : Journal) : Level := if j.handlers.isEmpty then .notSet else .debug

/-- Whether notes of some origin belong in the journal. -/
def concerns (origin : String) : Bool :=
  origin == "delimit" || "delimit.".toList.isPrefixOf origin.toList

/-- Hands a note to the handlers. -/
def log (now : String) (n : Note) (j : Journal) : Journal :=
  if concerns n.origin && n.level != .notSet then
    { j with folder := j.handlers.foldl (fun f h => h.write now n f) j.folder }
  else j

/-- Hands over several notes in order. -/
def logAll (now : String) (notes : List Note) (j : Journal) : Journal :=
  notes.foldl (fun j n => j.log now n) j

/-- A note of the journal on itself. -/
def ownNote (level : Level) (text : String) : Note := ⟨"delimit.logging", level, text⟩

/-- The note on new handlers. -/
def installedNote (r : LogRequest) : Note :=
  let file := match r.path? with
    | .ok (some p) => p.shown
    | _ => "None"
  ownNote .info
    ("Logging configured - console_level: " ++ r.consoleLevel.shown ++ ", file: " ++ file)

/-- The note on a request that is ignored. -/
def ignoredNote : Note :=
  ownNote .debug "Logging already configured, ignoring configuration request"

/-- Installs the handlers that a request describes, unless the journal is configured already and the
request does not insist; and whether it did. -/
def configure (now : String) (r : LogRequest) (j : Journal) : Except Fault Bool × Journal :=
  if j.configured && !r.force.isTruthy then (.ok false, j.log now ignoredNote)
  else
    match r.install j.folder with
    | (.error fault, f) => (.error fault, { j with folder := f })
    | (.ok handlers, f) => (.ok true, log now (installedNote r) ⟨true, handlers, f⟩)

/-- Forgets that the journal was configured.  The handlers stay. -/
def reset (j : Journal) : Journal := { j with configured := false }

/-- Does what a section of settings says, and whether handlers were installed. -/
def apply (now : String) (d : LogDraft) (j : Journal) : Except Fault Bool × Journal :=
  if d.enabled.isTruthy then j.configure now (.ofDraft d) else (.ok false, j)

end Journal

end TextSplit
