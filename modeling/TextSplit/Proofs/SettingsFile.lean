import TextSplit.Proofs.Encoding
import TextSplit.Proofs.Printing
import TextSplit.Proofs.Reload
import TextSplit.Settings.File

/-!
# Settings in a file and back

Saving empties the file before it writes, and it writes only what a settings file can hold.  The flags of
a pattern are no such thing, nor is a number with too many digits, so settings with one of them leave an empty
file behind.  All other settings come back, because the text that is written prints: neither its bytes nor its
line ends are changed on the way.

Of the format of the file this takes for granted what holds of the one in use: what can be held is written in
characters that print, and the first thing that cannot be held stops the writer.

* `Delimiter.unheld?`, `Splitter.unheld?`, `Settings.unheld?` — what stops the writer.
* `Settings.holds_toPlain` — the writer sees the same in what is written.
* `LawfulFileFormat` — what is taken for granted of the format.
* `Folder.Opens`, `Folder.look_replace` — a path at which a file can be made, and the file that was made.
* `Settings.valueOf_encode` — a text that prints is read as it was written.
* `Settings.exists_save`, `Settings.save_of_unheld` — what is saved, and what leaves the file empty.
* **`Settings.save_load`** — what is saved, and when it is loaded again.
-/

namespace TextSplit

open Yaml (unheldAll? allNamesPrint)
open Yaml.TextStyle (isSpecial)

/-! ## What is written -/

/-- Entries whose names print, and what of them a settings file cannot hold. -/
structure Value.Holds [Machine] (o : Option Failure) (entries : List (Value × Value)) : Prop where
  names : allNamesPrint entries = true
  unheld : unheldAll? entries = o

namespace Value

variable [Machine] {o o' : Option Failure} {xs ys : List (Value × Value)}

lemma Holds.append (hx : Holds o xs) (hy : Holds o' ys) : Holds (o.or o') (xs ++ ys) :=
  ⟨Yaml.allNamesPrint_append hx.names hy.names, by rw [Yaml.unheldAll?_append, hx.unheld, hy.unheld]⟩

lemma Holds.nil : Holds none [] := ⟨rfl, rfl⟩

/-- One entry under a name that prints. -/
lemma Holds.single (name : String) (v : Value) (hname : name.toList.any isSpecial = false)
    (hv : Yaml.namesPrint v = true) : Holds (Yaml.unheld? v) [(.text name, v)] := by
  refine ⟨?_, Option.or_none⟩
  rw [allNamesPrint, hname, hv]
  rfl

/-- One entry whose value is a mapping. -/
lemma Holds.dict (name : String) (hname : name.toList.any isSpecial = false) (hx : Holds o xs) :
    Holds o [(.text name, .dict xs)] := by
  rw [← hx.unheld]
  exact .single name (.dict xs) hname hx.names

end Value

open Value (Holds)

section Written

variable [Machine]

lemma CharClass.holds_toPlain {k : CharClass} {fields : List (Value × Value)}
    (h : k.toPlain = .ok fields) : Holds none fields := by
  rw [← (toPlain_eq_ok_iff.1 h).2]
  refine Holds.append (o := none) ?_ ?_
  · split_ifs
    · exact .single "whitespace" (.bool true) (by decide) rfl
    · exact .nil
  · split_ifs
    · exact .nil
    · exact .single "any_of" (.text (String.ofList k.members.joined)) (by decide) rfl

namespace Delimiter

variable {d : Delimiter} {entries : List (Value × Value)}

/-- What of a delimiter a settings file cannot hold: flags, or a length with too many digits. -/
def unheld? : Delimiter → Option Failure
  | .pattern p _ => if p.flags.written = Pattern.Flags.none then none else some .unwritable
  | .chunk length _ => Yaml.unheld? (.int length)
  | _ => none

lemma holds_toPlain (h : d.toPlain = .ok entries) : Holds d.unheld? entries := by
  have htyped : ∀ kind, Holds none [toPlain.typed kind] := fun kind =>
    .single "type" (.text kind) (by decide) rfl
  cases d with
  | pattern p cuts =>
      obtain rfl := Except.ok.inj h
      have hsource := Holds.single "pattern" (.text (String.ofList p.source)) (by decide) rfl
      refine ((htyped "pattern").append hsource).append (o := none) ?_
      split_ifs
      · exact .nil
      · exact .single "flags" (.thing (.flags p.flags.written)) (by decide) rfl
  | charClass k =>
      rw [toPlain_charClass] at h
      obtain ⟨fields, hfields, rfl⟩ := map_eq_ok_iff.1 h
      exact (htyped "char_class").append (CharClass.holds_toPlain hfields)
  | char c =>
      obtain rfl := Except.ok.inj h
      exact (htyped "char").append (.single "separator" (.text c.toString) (by decide) rfl)
  | literal separator hasChar =>
      obtain rfl := Except.ok.inj h
      have hseparator := Holds.single "separator" (.text (String.ofList separator)) (by decide) rfl
      exact (htyped "string").append hseparator
  | chunk length positive =>
      obtain rfl := Except.ok.inj h
      exact (htyped "fixed_length").append (.single "length" (.int length) (by decide) rfl)

end Delimiter

namespace Splitter

variable {s : Splitter} {entries : List (Value × Value)}

/-- What of a splitter a settings file cannot hold: of its delimiter, or of its limit. -/
def unheld? (s : Splitter) : Option Failure :=
  s.delimiter.unheld?.or (s.limit.bind fun n => Yaml.unheld? (.int n.1))

lemma holds_trimEntries {trimmer : Option CharClass} {trim : List (Value × Value)}
    (h : trimEntries trimmer = .ok trim) : Holds none trim := by
  cases trimmer with
  | none =>
      obtain rfl := Except.ok.inj h
      exact .nil
  | some k =>
      rw [trimEntries_some] at h
      obtain ⟨v, hv, rfl⟩ := map_eq_ok_iff.1 h
      rw [trimToPlain] at hv
      split_ifs at hv
      · obtain rfl := Except.ok.inj hv
        exact .single "trim" (.bool true) (by decide) rfl
      · obtain ⟨fields, hfields, rfl⟩ := map_eq_ok_iff.1 hv
        exact .dict "trim" (by decide) (CharClass.holds_toPlain hfields)

lemma holds_toPlain (h : s.toPlain = .ok entries) : Holds s.unheld? entries := by
  rw [toPlain] at h
  obtain ⟨delimiter, hdelimiter, h⟩ := bind_eq_ok_iff.1 h
  obtain ⟨trim, htrim, h⟩ := bind_eq_ok_iff.1 h
  obtain rfl := Except.ok.inj h
  have homit : Holds none (if s.omitEmpty then [(Value.text "omit_empty", Value.bool true)] else []) := by
    split_ifs
    · exact .single "omit_empty" (.bool true) (by decide) rfl
    · exact .nil
  have hparts := ((Delimiter.holds_toPlain hdelimiter).append (holds_trimEntries htrim)).append homit
  rw [Option.or_none, Option.or_none] at hparts
  refine hparts.append ?_
  cases s.limit with
  | none => exact .nil
  | some n => exact .single "limit" (.int n.1) (by decide) rfl

end Splitter

namespace Settings

variable {c : Settings} {sections : List (Value × Value)}

/-- What of settings a settings file cannot hold: of the splitter, or of the separator. -/
def unheld? (c : Settings) : Option Failure := c.splitter.unheld?.or (c.separator.bind Splitter.unheld?)

/-- **The writer finds what it cannot write in the splitters**, and nowhere else. -/
lemma holds_toPlain (h : c.toPlain = .ok sections) : Holds c.unheld? sections := by
  have htable : Holds none c.table.draft.toPlain := ⟨rfl, rfl⟩
  have hlog : Holds none (if c.log.enabled then [(Value.text "logging", Value.dict c.log.draft.toPlain)]
      else []) := by
    have hdraft : Holds none c.log.draft.toPlain := by
      rw [LogSettings.draft]
      cases c.log.fileName <;> exact ⟨rfl, rfl⟩
    split_ifs
    · exact .dict "logging" (by decide) hdraft
    · exact .nil
  rw [toPlain] at h
  obtain ⟨splitting, hsplitting, h⟩ := bind_eq_ok_iff.1 h
  have hsplitter := Holds.dict "splitting" (by decide) (Splitter.holds_toPlain hsplitting)
  have hfirst := hsplitter.append (.dict "data" (by decide) htable)
  rw [Option.or_none] at hfirst
  rw [unheld?]
  cases hs : c.separator with
  | none =>
      rw [hs] at h
      obtain rfl := Except.ok.inj h
      have hall := (hfirst.append .nil).append hlog
      rw [Option.or_none] at hall
      exact hall
  | some s =>
      rw [hs] at h
      obtain ⟨entries, hentries, h⟩ := bind_eq_ok_iff.1 h
      obtain rfl := Except.ok.inj h
      have hsecond := Holds.dict "key_value" (by decide) (Splitter.holds_toPlain hentries)
      have hall := (hfirst.append hsecond).append hlog
      rw [Option.or_none] at hall
      exact hall

end Settings

end Written

/-! ## The file -/

namespace Folder

variable {f g : Folder} {p : Path} {steps : List String}

/-- A path at which a file can be made or replaced: every step on the way is a directory, and the last one
is none. -/
def Opens (f : Folder) (p : Path) : Prop :=
  ∃ steps, f.resolve p = .ok steps ∧ f.hasDirectory steps = false

/-- Where steps lead depends on the directories alone. -/
lemma walk_of_directories (hdirs : g.directories = f.directories) {here rest : List String}
    (h : f.walk here rest = .ok steps) : g.walk here rest = .ok steps := by
  have hhas : g.hasDirectory = f.hasDirectory := by
    funext there
    rw [hasDirectory, hasDirectory, hdirs]
  fun_induction walk f here rest with
  | case1 => exact h
  | case2 here step rest hmissing => exact absurd h (by simp)
  | case3 here rest hdirectory htop => exact absurd h (by simp)
  | case4 here rest hdirectory htop ih =>
      rw [walk, hhas, if_neg hdirectory, if_pos rfl, if_neg htop]
      exact ih h
  | case5 here step rest hdirectory hup ih =>
      rw [walk, hhas, if_neg hdirectory, if_neg hup]
      exact ih h

lemma resolve_of_directories (hdirs : g.directories = f.directories) (h : f.resolve p = .ok steps) :
    g.resolve p = .ok steps := by
  unfold resolve at h ⊢
  split_ifs at h ⊢
  exact walk_of_directories hdirs h

/-- **A file that was just made is found**, with the bytes that it was given. -/
lemma Opens.look_replace (hp : f.Opens p) (bytes : List UInt8) :
    (f.replace p bytes).look p = .file bytes := by
  obtain ⟨steps, hsteps, hdirectory⟩ := hp
  -- the folder keeps its directories, so the path leads to the same place as before
  have hreplace : f.replace p bytes
      = { f with files := (steps, bytes) :: f.files.filter (·.1 != steps) } := by
    rw [replace, hsteps]
  have hagain : (f.replace p bytes).resolve p = .ok steps :=
    resolve_of_directories (by rw [hreplace]) hsteps
  have hnone : ¬ (f.replace p bytes).hasDirectory steps = true := by
    rw [hreplace]
    exact fun h => absurd (h.symm.trans hdirectory) (by simp)
  have hbytes : (f.replace p bytes).bytes? steps = some bytes := by
    rw [hreplace, bytes?, List.lookup_cons, beq_self_eq_true]
  rw [look, hagain]
  simp only [if_neg hnone, hbytes]

end Folder

/-- A text without carriage returns has the line ends that it will have. -/
lemma Lines.unified_eq_self {text : List Char} (h : '\r' ∉ text) : unified text = text := by
  fun_induction unified text with
  | case1 => rfl
  | case2 => exact absurd List.mem_cons_self h
  | case3 => exact absurd List.mem_cons_self h
  | case4 c rest hpair hreturn ih => rw [ih fun hmem => h (List.mem_cons_of_mem _ hmem)]

/-- What is taken for granted of the format of settings files: what can be held is written in characters that
print, the first thing that cannot be held stops the writer, and an empty file spells nothing. -/
class LawfulFileFormat [Machine] [FileFormat] : Prop where
  outcome {sections : List (Value × Value)} : allNamesPrint sections = true →
    Yaml.Outcome (unheldAll? sections) (FileFormat.write sections)
  read_nil : FileFormat.read [] = .ok .null

instance [Machine] : LawfulFileFormat := ⟨Yaml.outcome_writeEntries 0, rfl⟩

/-- Whether the writer and the reader of settings files agree on a mapping; this can be evaluated. -/
def Yaml.comesBack [Machine] (sections : List (Value × Value)) : Bool :=
  match write sections with
  | .ok text =>
    match read text with
    | .ok v => v.same (.dict sections)
    | .error _ => false
  | .error _ => true

lemma Yaml.read_of_comesBack [Machine] {sections : List (Value × Value)} {text : List Char}
    (h : comesBack sections = true) (hwrite : write sections = .ok text) :
    read text = .ok (.dict sections) := by
  rw [comesBack, hwrite] at h
  cases hread : read text with
  | error fault => exact absurd h (by simp [hread])
  | ok v =>
      simp only [hread] at h
      rw [Value.eq_of_same h]

namespace Settings

variable {c : Settings} {data : Value} {f : Folder} {p : Path}

/-- A text that prints is read as it was written. -/
lemma valueOf_encode [FileFormat] (shown : String) {text : List Char} {v : Value}
    (htext : Yaml.Printed text) (hread : FileFormat.read text = .ok v) :
    valueOf shown (Utf8.encode (String.ofList text)) = .ok v := by
  have hreturn : '\r' ∉ text := fun hmem => absurd (htext _ hmem) (by decide)
  rw [valueOf, Utf8.decode?_encode]
  simp only [Lines.unified_eq_self hreturn, hread]

/-- A file is read as the mapping that it spells, empty or not. -/
lemma load_of_look [PatternReader] [Machine] [FileFormat] {bytes : List UInt8}
    {sections : List (Value × Value)} (hlook : f.look p = .file bytes)
    (hvalue : valueOf p.shown bytes = .ok (.dict sections)) : load f p = ofPlain (.dict sections) := by
  rw [load, hlook]
  simp only [hvalue]
  show ofPlain (if (Value.dict sections).isTruthy then .dict sections else .dict []) = _
  split_ifs with htruthy
  · rfl
  · have hempty : sections = [] := by simpa [Value.isTruthy] using htruthy
    rw [hempty]

/-- The text of a settings file is what is written of the form of the settings. -/
lemma fileText_eq [FileFormat] {sections : List (Value × Value)} (h : c.toPlain = .ok sections) :
    c.fileText = FileFormat.write sections := by
  rw [fileText, h]
  rfl

section Lawful

variable [Machine] [FileFormat] [LawfulFileFormat] {sections : List (Value × Value)}

/-- The form of settings is written unless something in it cannot be held. -/
lemma outcome_write (h : c.toPlain = .ok sections) :
    Yaml.Outcome c.unheld? (FileFormat.write sections) := by
  have hheld := holds_toPlain h
  rw [← hheld.unheld]
  exact LawfulFileFormat.outcome hheld.names

/-- What a settings file can hold is written to it, in characters that print. -/
lemma exists_save (h : c.toPlain = .ok sections) (hnone : c.unheld? = none) :
    ∃ text, FileFormat.write sections = .ok text ∧ Yaml.Printed text
      ∧ c.save f p = (.ok (), f.replace p (Utf8.encode (String.ofList text))) := by
  have houtcome := outcome_write h
  rw [hnone] at houtcome
  rw [save, fileText_eq h]
  generalize FileFormat.write sections = written at houtcome ⊢
  cases houtcome with
  | written printed => exact ⟨_, rfl, printed, rfl⟩

/-- What it cannot hold leaves it empty. -/
lemma save_of_unheld {failure : Failure} (h : c.toPlain = .ok sections)
    (hsome : c.unheld? = some failure) : c.save f p = (Fault.fail failure, f.replace p []) := by
  have houtcome := outcome_write h
  rw [hsome] at houtcome
  rw [save, fileText_eq h]
  generalize FileFormat.write sections = written at houtcome ⊢
  cases houtcome with
  | stopped => rfl

end Lawful

/-- **What is saved and loaded again.**  Let settings come from plain data, let a file be made at the path, and
let the reader of settings files read what their writer writes for the written form at hand.  If a settings
file can hold them, they are saved, and what is loaded is written as they are.  Otherwise, so if a pattern has
flags or a number too many digits, nothing is saved, and the file is empty. -/
theorem save_load [PatternReader] [Machine] [FileFormat] [LawfulFileFormat] (hplain : data.isPlain = true)
    (h : ofPlain data = .ok c) (hp : f.Opens p)
    (hback : ∀ sections text, c.toPlain = .ok sections → FileFormat.write sections = .ok text →
      FileFormat.read text = .ok (.dict sections)) :
    (c.unheld? = none → (c.save f p).1 = .ok ()
        ∧ ∃ again, load (c.save f p).2 p = .ok again ∧ again.toPlain = c.toPlain)
      ∧ ∀ failure, c.unheld? = some failure → (c.save f p).1 = Fault.fail failure
        ∧ (c.save f p).2.look p = .file [] := by
  obtain ⟨sections, hsections, hagain⟩ := exists_toPlain (rechecked_of_ofPlain hplain h)
  refine ⟨fun hnone => ?_, fun failure hsome => ?_⟩
  · obtain ⟨text, hwrite, hprinted, hsave⟩ := exists_save (f := f) (p := p) hsections hnone
    have hvalue := valueOf_encode p.shown hprinted (hback _ _ hsections hwrite)
    have hload := (load_of_look (hp.look_replace _) hvalue).trans hagain
    rw [hsave]
    exact ⟨rfl, { c.named with log := c.log.kept }, hload, c.named.toPlain_kept.trans c.toPlain_named⟩
  · rw [save_of_unheld hsections hsome]
    exact ⟨rfl, hp.look_replace []⟩

/-- Settings with every type of value that is written, in a new file of an empty folder. -/
theorem save_load_out :
    let data : Value := .dict
      [(.text "splitting", .dict [(.text "type", .text "string"), (.text "separator", .text "; "),
          (.text "trim", .bool true), (.text "limit", .int 3)]),
        (.text "key_value", .text ":"), (.text "logging", .dict [])]
    let c : Settings :=
      ⟨⟨.literal [';', ' '] (by simp), some .blanks, false, some ⟨3, by decide⟩⟩, some (.plain (.char ':')),
        ⟨"text", false, false⟩, ⟨true, "INFO", "delimit_logs", none, "DEBUG"⟩⟩
    let p : Path := ⟨0, ["out.yaml"]⟩
    data.isPlain = true ∧ ofPlain data = .ok c ∧ Folder.empty.Opens p ∧ (c.save .empty p).1 = .ok ()
      ∧ ∃ again, load (c.save .empty p).2 p = .ok again ∧ again.toPlain = c.toPlain := by
  intro data c p
  have hread : ofPlain data = .ok c := by rfl
  have hp : Folder.empty.Opens p := ⟨["out.yaml"], rfl, rfl⟩
  refine ⟨rfl, hread, hp, (save_load rfl hread hp ?_).1 rfl⟩
  intro sections text hsections hwrite
  obtain rfl := Except.ok.inj hsections
  exact Yaml.read_of_comesBack (by decide +kernel) hwrite

/-- **Settings that cannot be saved**: a pattern that ignores case. -/
theorem save_flags :
    let data : Value := .dict [(.text "splitting", .dict [(.text "type", .text "pattern"),
      (.text "pattern", .text "a"), (.text "flags", .int 2)])]
    data.isPlain = true ∧ ∃ c, ofPlain data = .ok c ∧ Folder.empty.Opens ⟨0, ["out.yaml"]⟩
      ∧ (c.save .empty ⟨0, ["out.yaml"]⟩).1 = Fault.fail .unwritable := by
  intro data
  obtain ⟨c, hc, hflags⟩ : ∃ c, ofPlain data = .ok c ∧ c.unheld? = some .unwritable := ⟨_, rfl, rfl⟩
  refine ⟨rfl, c, hc, ⟨["out.yaml"], rfl, rfl⟩, ?_⟩
  obtain ⟨sections, hsections, -⟩ := exists_toPlain (rechecked_of_ofPlain rfl hc)
  rw [save_of_unheld hsections hflags]

end Settings

end TextSplit
