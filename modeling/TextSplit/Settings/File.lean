import TextSplit.Folder
import TextSplit.Settings.Plain
import TextSplit.Text.Lines
import TextSplit.Text.Utf8
import TextSplit.Yaml.Reader
import TextSplit.Yaml.Writer

/-!
# Settings in files

* `FileFormat` — how a settings file spells a mapping; `FileFormat.yaml` holds unless another is named.
* `Settings.load` — the settings that a file holds.
* `Settings.ofArgument` — the settings that a caller means: settings, their written form, or a file.
* `Settings.save` — writes settings to a file.  The file is emptied before anything else happens.
-/

namespace TextSplit

/-- How a settings file spells a mapping, and what a text spells. -/
class FileFormat where
  write : List (Value × Value) → Except Fault (List Char)
  read : List Char → Except Yaml.Fault Value

/-- The format of settings files, unless another is named. -/
instance FileFormat.yaml [Machine] : FileFormat := ⟨Yaml.write, Yaml.read⟩

namespace Settings

/-- The value that the bytes of a settings file spell. -/
def valueOf [FileFormat] (shown : String) (bytes : List UInt8) : Except Fault Value :=
  match Utf8.decode? bytes with
  | none => Fault.fail .undecodable
  | some text =>
    match FileFormat.read (Lines.unified text) with
    | .ok v => .ok v
    | .error .malformed => Fault.refuse (.settingsFileMalformed shown)
    | .error (.failed failure) => Fault.fail failure

/-- The settings that a file holds.  A file that spells nothing is read as an empty mapping. -/
def load [PatternReader] [Machine] [FileFormat] (f : Folder) (p : Path) : Except Fault Settings :=
  match f.look p with
  | .missing | .blocked => Fault.refuse (.settingsFileMissing p.shown)
  | .directory => Fault.fail .directory
  | .file bytes => do
    let v ← valueOf p.shown bytes
    ofPlain (if v.isTruthy then v else .dict [])

/-- The settings that a caller means. -/
def ofArgument [PatternReader] [Machine] [FileFormat] (f : Folder) (given : Value) : Except Fault Settings :=
  match given with
  | .thing (.settings s) => .ok s
  | .text p => load f (Path.ofText p)
  | .thing (.path p) => load f (Path.ofText p)
  | .dict sections => ofPlain (.dict sections)
  | other => Fault.refuse (.settingsUnusable other)

/-- The text of a settings file. -/
def fileText [FileFormat] (s : Settings) : Except Fault (List Char) := do
  let sections ← s.toPlain
  FileFormat.write sections

/-- Writes settings to a file, and the folder that results.  What cannot be written leaves the file
empty. -/
def save [FileFormat] (s : Settings) (f : Folder) (p : Path) : Except Fault Unit × Folder :=
  match s.fileText with
  | .ok text => (.ok (), f.replace p (Utf8.encode (String.ofList text)))
  | .error fault => (.error fault, f.replace p [])

end Settings

end TextSplit
