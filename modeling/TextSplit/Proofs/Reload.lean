import TextSplit.Proofs.Description
import TextSplit.Settings.Plain

/-!
# Settings read again

Settings that were read from plain data can be written down, and what is written is read as the same
settings.  Two things could get in the way: a class with a test, which cannot be written, and a value that
passes its check in one form but not in the other.  Neither comes out of plain data.

One thing does get in the way: the flags of a pattern that have no name are not written, so the splitters
come back without them.

* `Splitter.Writable` — a splitter without tests, whose classes hold single characters and whose pattern
  was read.
* `CharClass.Describes.writable` and its like — what a mapping describes is writable, at each level.
* `Settings.Rechecked` — the invariant: both splitters are writable, and the drafts of the other two
  sections pass their checks.
* `Settings.named` — what comes back of the splitters; `Settings.exists_toPlain` — settings with the
  invariant are written and read again.
* **`Settings.reload`** — the same for settings that were read from plain data.
-/

namespace TextSplit

/-! ## Splitters from plain data -/

/-- A class that is given by single characters and blanks can be written, and is told by what is
written. -/
def CharClass.Writable (k : CharClass) : Prop := k.tests = [] ∧ k.Single

/-- A splitter can be written if the classes that it holds can, and comes back if its pattern was read. -/
structure Splitter.Writable [PatternReader] (s : Splitter) : Prop where
  classes : ∀ k ∈ s.classes, k.Writable
  patterns : ∀ p ∈ s.patterns, p.Readable

/-- The fields of a class say nothing of tests, and its members are characters of a text. -/
lemma CharClass.Describes.writable {others : List String} {entries : List (Value × Value)}
    {k : CharClass} (h : k.Describes others entries) : k.Writable := by
  refine ⟨h.tests, fun t ht => ?_⟩
  rcases h.members with ⟨-, hmembers⟩ | ⟨chars, -, hmembers⟩ <;> rw [hmembers] at ht
  · exact Single.anyOf [] t ht
  · exact Single.anyOf chars.toList t ht

/-- Only one kind of delimiter holds a class. -/
lemma Delimiter.Describes.writable [PatternReader] {others : List String} {entries : List (Value × Value)}
    {d : Delimiter} (h : d.Describes others entries) : ∀ k ∈ d.class?, k.Writable := by
  cases h with
  | charClass kind fields => exact fun k hk => Option.mem_some.1 hk ▸ fields.writable
  | _ => exact fun k hk => absurd hk (Option.not_mem_none k)

/-- Another one holds a pattern, which was read. -/
lemma Delimiter.Describes.readable [PatternReader] {others : List String} {entries : List (Value × Value)}
    {d : Delimiter} (h : d.Describes others entries) : ∀ p ∈ d.pattern?, p.Readable := by
  cases h with
  | pattern cuts kind field reads => exact fun p hp => Option.mem_some.1 hp ▸ reads.readable
  | _ => exact fun p hp => absurd hp (Option.not_mem_none p)

namespace Splitter

variable {s : Splitter}

lemma Trims.writable {field : Option Value} {trimmer : Option CharClass} (h : Trims field trimmer) :
    ∀ k ∈ trimmer, k.Writable := by
  have hblanks : CharClass.blanks.Writable := ⟨rfl, fun t ht => absurd ht TextSet.not_mem_empty⟩
  cases h with
  | yes => exact fun k hk => Option.mem_some.1 hk ▸ hblanks
  | blanks => exact fun k hk => Option.mem_some.1 hk ▸ hblanks
  | charClass describes => exact fun k hk => Option.mem_some.1 hk ▸ describes.writable
  | _ => exact fun k hk => absurd hk (Option.not_mem_none k)

/-- A delimiter and a trimmer make a writable splitter. -/
lemma Writable.of_parts [PatternReader] (hd : ∀ k ∈ s.delimiter.class?, k.Writable)
    (hp : ∀ p ∈ s.delimiter.pattern?, p.Readable) (ht : ∀ k ∈ s.trimmer, k.Writable) : s.Writable := by
  refine ⟨?_, fun p hmem => hp p (Option.mem_toList.1 hmem)⟩
  simp only [Splitter.classes, List.forall_mem_append, Option.mem_toList]
  exact ⟨hd, ht⟩

/-- **A splitter that was read can be written.** -/
lemma writable_of_ofPlain [PatternReader] {data : Value} (hplain : data.isPlain = true)
    (h : ofPlain data = .ok s) : s.Writable := by
  cases data with
  | dict entries =>
      have hs := (ofPlain_iff hplain).1 h
      exact .of_parts hs.delimiter.writable hs.delimiter.readable hs.trimmer.writable
  | _ => exact absurd h (by simp [ofPlain, Fault.refuse])

/-- A splitter on a text holds no class and no pattern. -/
lemma writable_of_on_text [PatternReader] {text : String} (h : on (.text text) = .ok s) : s.Writable := by
  obtain ⟨d, hd, rfl⟩ := map_eq_ok_iff.1 h
  have hnone : d.class? = none ∧ d.pattern? = none := by
    split_ifs at hd
    · obtain ⟨c, -, rfl⟩ := Delimiter.ofChar_iff.1 hd
      exact ⟨rfl, rfl⟩
    · obtain ⟨separator, -, -, rfl⟩ := Delimiter.ofLiteral_iff.1 hd
      exact ⟨rfl, rfl⟩
  exact .of_parts (fun k hk => absurd (hnone.1 ▸ hk) (Option.not_mem_none k))
    (fun p hp => absurd (hnone.2 ▸ hp) (Option.not_mem_none p)) fun k hk => absurd hk (Option.not_mem_none k)

/-- A writable splitter is written, and read back. -/
lemma Writable.exists_toPlain [PatternReader] (hs : s.Writable) :
    ∃ entries, s.toPlain = .ok entries ∧ ofPlain (.dict entries) = .ok s.named := by
  obtain ⟨entries, hentries⟩ := s.settles_toPlain.exists_ok fun k hk => (hs.classes k hk).1
  exact ⟨entries, hentries,
    ofPlain_of_toPlain hentries (fun k hk => (hs.classes k hk).2) hs.patterns⟩

/-- The written form names the kind of the delimiter first. -/
lemma get?_type_of_toPlain {entries : List (Value × Value)} (h : s.toPlain = .ok entries) :
    ∃ kind ∈ Cause.delimiterTypes, Value.get? entries "type" = some (.text kind) := by
  obtain ⟨delimiter, trim, rest, hdelimiter, -, rfl, -⟩ := exists_parts h
  suffices ∃ kind ∈ Cause.delimiterTypes, ∃ fields, delimiter = Delimiter.toPlain.typed kind :: fields by
    obtain ⟨kind, hkind, fields, rfl⟩ := this
    exact ⟨kind, hkind, rfl⟩
  cases hd : s.delimiter with
  | charClass k =>
      rw [hd, Delimiter.toPlain_charClass] at hdelimiter
      obtain ⟨fields, -, rfl⟩ := map_eq_ok_iff.1 hdelimiter
      exact ⟨"char_class", by decide, fields, rfl⟩
  | char c =>
      obtain rfl := Except.ok.inj (hd ▸ hdelimiter)
      exact ⟨"char", by decide, _, rfl⟩
  | literal separator hasChar =>
      obtain rfl := Except.ok.inj (hd ▸ hdelimiter)
      exact ⟨"string", by decide, _, rfl⟩
  | pattern p cuts =>
      obtain rfl := Except.ok.inj (hd ▸ hdelimiter)
      exact ⟨"pattern", by decide, _, rfl⟩
  | chunk length positive =>
      obtain rfl := Except.ok.inj (hd ▸ hdelimiter)
      exact ⟨"fixed_length", by decide, _, rfl⟩

end Splitter

/-! ## The sections -/

namespace SplitterDraft

variable {data : Value} {d : SplitterDraft}

/-- A section of plain data holds a writable splitter or none. -/
lemma ofPlain_cases [PatternReader] {name : String} (hplain : data.isPlain = true)
    (h : ofPlain name data = .ok d) : d = ⟨.null⟩ ∨ ∃ s : Splitter, s.Writable ∧ d = ⟨.thing (.splitter s)⟩ := by
  unfold ofPlain at h
  split at h
  · exact absurd hplain (by simp [Value.isPlain])
  · exact .inl (Except.ok.inj h).symm
  · obtain ⟨s, hs, h⟩ := bind_eq_ok_iff.1 h
    exact .inr ⟨s, Splitter.writable_of_on_text hs, (Except.ok.inj h).symm⟩
  · split_ifs at h
    · exact .inl (Except.ok.inj h).symm
    · obtain ⟨s, hs, h⟩ := bind_eq_ok_iff.1 h
      exact .inr ⟨s, Splitter.writable_of_ofPlain hplain hs, (Except.ok.inj h).symm⟩
  · exact absurd h (by simp [Fault.refuse])

/-- The section of a splitter that was written holds what is read back of it: the kind that it names is
never the word for none. -/
lemma ofPlain_of_toPlain [PatternReader] (name : String) {s : Splitter} {entries : List (Value × Value)}
    (hs : s.Writable) (h : s.toPlain = .ok entries) :
    ofPlain name (.dict entries) = .ok ⟨.thing (.splitter s.named)⟩ := by
  obtain ⟨kind, hkind, htype⟩ := Splitter.get?_type_of_toPlain h
  have hkinds : ∀ kind ∈ Cause.delimiterTypes, ¬ saysNone (.text kind) = true := by decide
  have hsays : ¬ saysNone ((Value.get? entries "type").getD .null) = true := by
    rw [htype]
    exact hkinds kind hkind
  rw [ofPlain, if_neg hsays,
    Splitter.ofPlain_of_toPlain h (fun k hk => (hs.classes k hk).2) hs.patterns]
  rfl

end SplitterDraft

namespace TableDraft

variable {d : TableDraft} {t : TableSettings}

lemma checkFlag_eq_ok_iff {name : String} {given : Value} {b : Bool} :
    checkFlag name given = .ok b ↔ given.flag? = some b := by
  unfold checkFlag
  split <;> simp_all [Fault.refuse]

/-- What passes the check: a name that is not empty, and two truth values. -/
lemma check_eq_ok_iff :
    d.check = .ok t ↔ d.target = .text t.target ∧ t.target.isEmpty = false
      ∧ d.dropTarget.flag? = some t.dropTarget ∧ d.expandPairs.flag? = some t.expandPairs := by
  obtain ⟨target, dropTarget, expandPairs⟩ := t
  unfold check
  split
  · rename_i name hname
    split_ifs with hempty
    · refine ⟨fun h => absurd h (by simp [Fault.refuse]), ?_⟩
      rintro ⟨htarget, hnot, -⟩
      obtain rfl := Value.text.inj (hname.symm.trans htarget)
      exact absurd hempty (by simp [hnot])
    · simp only [bind_eq_ok_iff, checkFlag_eq_ok_iff, hname]
      constructor
      · rintro ⟨b, hb, b', hb', h⟩
        obtain ⟨rfl, rfl, rfl⟩ := TableSettings.mk.inj (Except.ok.inj h)
        exact ⟨rfl, Bool.not_eq_true _ ▸ hempty, hb, hb'⟩
      · rintro ⟨htarget, -, hb, hb'⟩
        obtain rfl := Value.text.inj htarget
        exact ⟨_, hb, _, hb', rfl⟩
  · rename_i hnot
    refine ⟨fun h => absurd h (by simp [Fault.refuse]), fun h => absurd h.1 (hnot _)⟩

/-- The draft of checked settings passes the check with the same result. -/
lemma check_draft (h : d.check = .ok t) : t.draft.check = .ok t :=
  check_eq_ok_iff.2 ⟨rfl, (check_eq_ok_iff.1 h).2.1, rfl, rfl⟩

end TableDraft

namespace LogDraft

variable {d : LogDraft} {l : LogSettings}

/-- A level that passed is a text, and that text passes again. -/
lemma checkLevel_text {option : String} {given : Value} {level : String}
    (h : checkLevel option given = .ok level) : checkLevel option (.text level) = .ok level := by
  obtain ⟨capitals, hcheck, hlevel⟩ := bind_eq_ok_iff.1 h
  obtain rfl := Except.ok.inj hlevel
  cases given with
  | text s => exact h
  | _ => exact absurd hcheck (by simp [Level.check, Fault.refuse])

/-- A name of a file that passed passes again. -/
lemma checkFileName_draft {given : Value} (h : checkFileName given = .ok l.fileName) :
    checkFileName l.draft.fileName = .ok l.fileName := by
  obtain ⟨enabled, consoleLevel, fileDir, fileName, fileLevel⟩ := l
  cases given with
  | null =>
      obtain rfl := Except.ok.inj h
      rfl
  | text name =>
      simp only [checkFileName] at h
      split_ifs at h with hempty
      · exact absurd h (by simp [Fault.refuse])
      · obtain rfl := Except.ok.inj h
        exact if_neg hempty
  | _ => exact absurd h (by simp [checkFileName, Fault.refuse])

/-- What passes the check: a truth value, two levels, and the name of a file or none. -/
lemma check_eq_ok_iff :
    d.check = .ok l ↔ d.enabled.flag? = some l.enabled
      ∧ checkLevel "console_level" d.consoleLevel = .ok l.consoleLevel
      ∧ checkLevel "file_level" d.fileLevel = .ok l.fileLevel
      ∧ checkFileName d.fileName = .ok l.fileName ∧ d.fileDir.shown = l.fileDir := by
  obtain ⟨enabled, consoleLevel, fileDir, fileName, fileLevel⟩ := l
  unfold check
  split
  · rename_i hnone
    exact ⟨fun h => absurd h (by simp [Fault.refuse]), fun h => absurd (hnone.symm.trans h.1) (by simp)⟩
  · rename_i b hb
    simp only [bind_eq_ok_iff, hb]
    constructor
    · rintro ⟨level, hlevel, level', hlevel', name, hname, h⟩
      obtain ⟨rfl, rfl, rfl, rfl, rfl⟩ := LogSettings.mk.inj (Except.ok.inj h)
      exact ⟨rfl, hlevel, hlevel', hname, rfl⟩
    · rintro ⟨henabled, hlevel, hlevel', hname, rfl⟩
      obtain rfl := Option.some.inj henabled
      exact ⟨_, hlevel, _, hlevel', _, hname, rfl⟩

/-- The draft of checked settings passes the check with the same result. -/
lemma check_draft (h : d.check = .ok l) : l.draft.check = .ok l := by
  obtain ⟨-, hconsole, hfile, hname, -⟩ := check_eq_ok_iff.1 h
  exact check_eq_ok_iff.2
    ⟨rfl, checkLevel_text hconsole, checkLevel_text hfile, checkFileName_draft hname, rfl⟩

end LogDraft

/-! ## The whole -/

/-- No logging, and otherwise what holds when nothing is said. -/
def LogSettings.standard : LogSettings :=
  ⟨false, Settings.defaultConsoleLevel, Settings.defaultLogDir, none, Settings.defaultFileLevel⟩

/-- What is left of settings on logging when they are written: a section that is turned off is not
written at all. -/
def LogSettings.kept (l : LogSettings) : LogSettings := if l.enabled then l else .standard

namespace Settings

variable {c : Settings} {data : Value} {sections : List (Value × Value)}

/-- The patterns that settings hold. -/
def patterns (c : Settings) : List Pattern := c.splitter.patterns ++ c.separator.elim [] Splitter.patterns

/-- Settings without the flags that have no name. -/
def named (c : Settings) : Settings :=
  { c with splitter := c.splitter.named, separator := c.separator.map Splitter.named }

/-- The splitters come back as they were exactly if all flags of their patterns have a name. -/
lemma named_splitters_iff :
    c.named.splitter = c.splitter ∧ c.named.separator = c.separator
      ↔ ∀ p ∈ c.patterns, p.flags.written = p.flags := by
  rw [named, patterns, List.forall_mem_append]
  refine and_congr Splitter.named_eq_self_iff ?_
  cases c.separator with
  | none => simp
  | some s => simp [Splitter.named_eq_self_iff]

/-- **What is read**: four sections give four drafts, and each draft passes its check. -/
lemma ofPlain_eq_ok_iff [PatternReader] [Machine] :
    ofPlain (.dict sections) = .ok c ↔ ∃ splitting separating table log,
      SplitterDraft.ofPlain "splitting" (sectionOf sections "splitting") = .ok splitting
      ∧ SplitterDraft.ofPlain "key_value" (sectionOf sections "key_value") = .ok separating
      ∧ TableDraft.ofPlain (sectionOf sections "data") = .ok table
      ∧ LogDraft.ofPlain (sectionOf sections "logging") = .ok log
      ∧ splitting.check = .ok c.splitter ∧ separating.checkSeparator = .ok c.separator
      ∧ table.check = .ok c.table ∧ log.check = .ok c.log := by
  obtain ⟨splitter, separator, tableSettings, logSettings⟩ := c
  simp only [ofPlain, ofDrafts, bind_eq_ok_iff]
  constructor
  · rintro ⟨splitting, h₁, separating, h₂, table, h₃, log, h₄, _, h₅, _, h₆, _, h₇, _, h₈, h⟩
    obtain ⟨rfl, rfl, rfl, rfl⟩ := Settings.mk.inj (Except.ok.inj h)
    exact ⟨splitting, separating, table, log, h₁, h₂, h₃, h₄, h₅, h₆, h₇, h₈⟩
  · rintro ⟨splitting, separating, table, log, h₁, h₂, h₃, h₄, h₅, h₆, h₇, h₈⟩
    exact ⟨splitting, h₁, separating, h₂, table, h₃, log, h₄, _, h₅, _, h₆, _, h₇, _, h₈, rfl⟩

/-- Plain data has plain sections. -/
lemma isPlain_sectionOf (h : (Value.dict sections).isPlain = true) (name : String) :
    (sectionOf sections name).isPlain = true := by
  unfold sectionOf
  cases hget : Value.get? sections name with
  | none => rfl
  | some v => exact Value.isPlain_of_get? h hget

/-- Both splitters can be written, and the drafts of the other sections pass their checks. -/
structure Rechecked [PatternReader] (c : Settings) : Prop where
  splitter : c.splitter.Writable
  separator : ∀ s ∈ c.separator, s.Writable
  table : c.table.draft.check = .ok c.table
  log : c.log.draft.check = .ok c.log

/-- **Settings that were read from plain data pass every check again.** -/
lemma rechecked_of_ofPlain [PatternReader] [Machine] (hplain : data.isPlain = true)
    (h : ofPlain data = .ok c) : c.Rechecked := by
  cases data with
  | dict sections =>
      obtain ⟨splitting, separating, table, log, hsplitting, hseparating, -, -, hsplitter, hseparator,
        htable, hlog⟩ := ofPlain_eq_ok_iff.1 h
      refine ⟨?_, ?_, TableDraft.check_draft htable, LogDraft.check_draft hlog⟩
      · obtain rfl | ⟨s, hs, rfl⟩ := SplitterDraft.ofPlain_cases (isPlain_sectionOf hplain _) hsplitting
        · exact absurd hsplitter (by simp [SplitterDraft.check, Fault.refuse])
        · exact Except.ok.inj hsplitter ▸ hs
      · obtain rfl | ⟨s, hs, rfl⟩ := SplitterDraft.ofPlain_cases (isPlain_sectionOf hplain _) hseparating
        · rw [← Except.ok.inj hseparator]
          exact fun s hs => absurd hs (Option.not_mem_none s)
        · rw [← Except.ok.inj hseparator]
          exact fun t ht => Option.mem_some.1 ht ▸ hs
  | _ => exact absurd h (by simp [ofPlain, Fault.refuse])

/-- The section on logging is left out when it is turned off, and then it is read as turned off. -/
lemma exists_logDraft [PatternReader] [Machine] (hc : c.Rechecked) :
    ∃ log, LogDraft.ofPlain (if c.log.enabled then .dict c.log.draft.toPlain else .null) = .ok log
      ∧ log.check = .ok c.log.kept := by
  rw [LogSettings.kept]
  split_ifs
  · exact ⟨c.log.draft, rfl, hc.log⟩
  · exact ⟨.standard, rfl, rfl⟩

/-- **Settings that pass every check again are written, and read again.**  Only flags without a name are
lost, and what a section on logging says beside being turned off. -/
lemma exists_toPlain [PatternReader] [Machine] (hc : c.Rechecked) :
    ∃ sections, c.toPlain = .ok sections
      ∧ ofPlain (.dict sections) = .ok { c.named with log := c.log.kept } := by
  obtain ⟨splitting, hsplitting, -⟩ := hc.splitter.exists_toPlain
  have hread := SplitterDraft.ofPlain_of_toPlain "splitting" hc.splitter hsplitting
  obtain ⟨log, hlog, hkept⟩ := exists_logDraft hc
  -- which sections are written depends on the separator and on logging
  cases hseparator : c.separator with
  | none =>
      have hnamed : c.named.separator = none := congrArg (Option.map Splitter.named) hseparator
      cases henabled : c.log.enabled <;> rw [henabled] at hlog
      all_goals
        refine ⟨_, by rw [toPlain, hsplitting, hseparator, henabled]; rfl, ofPlain_eq_ok_iff.2 ?_⟩
        exact ⟨_, _, _, _, hread, rfl, rfl, hlog, rfl, congrArg Except.ok hnamed.symm, hc.table, hkept⟩
  | some s =>
      have hs := hc.separator s hseparator
      obtain ⟨entries, hentries, -⟩ := hs.exists_toPlain
      have hread' := SplitterDraft.ofPlain_of_toPlain "key_value" hs hentries
      have hnamed : c.named.separator = some s.named := congrArg (Option.map Splitter.named) hseparator
      cases henabled : c.log.enabled <;> rw [henabled] at hlog
      all_goals
        refine ⟨_, by rw [toPlain, hsplitting, hseparator, henabled]; simp only [hentries]; rfl,
          ofPlain_eq_ok_iff.2 ?_⟩
        exact ⟨_, _, _, _, hread, hread', rfl, hlog, rfl, congrArg Except.ok hnamed.symm, hc.table, hkept⟩

/-- Flags that are lost are not written anyway. -/
lemma toPlain_named (c : Settings) : c.named.toPlain = c.toPlain := by
  obtain ⟨splitter, separator, table, log⟩ := c
  cases separator with
  | none => simp only [named, toPlain, Splitter.toPlain_named, Option.map_none]; rfl
  | some s => simp only [named, toPlain, Splitter.toPlain_named, Option.map_some]; rfl

/-- Nor is a section that is lost. -/
lemma toPlain_kept (c : Settings) : toPlain { c with log := c.log.kept } = c.toPlain := by
  cases henabled : c.log.enabled with
  | true => rw [LogSettings.kept, if_pos henabled]
  | false =>
      have hkept : c.log.kept = .standard := if_neg (henabled ▸ Bool.false_ne_true)
      rw [hkept, toPlain, toPlain, henabled]
      rfl

/-- **Settings from plain data are written and read again.**  Writing succeeds, and reading what is written
succeeds.  It gives the same settings on the table, and the same settings on logging unless it is turned off;
then it is turned off again.  It gives the splitter, and the separator or none, without the flags that have no
name.  These are the same as before exactly if all flags of their patterns have one, but in any case the same
is written again. -/
theorem reload [PatternReader] [Machine] (hplain : data.isPlain = true) (h : ofPlain data = .ok c) :
    ∃ sections, c.toPlain = .ok sections ∧ ∃ again, ofPlain (.dict sections) = .ok again
      ∧ again.splitter = c.splitter.named ∧ again.separator = c.separator.map Splitter.named
      ∧ (again.splitter = c.splitter ∧ again.separator = c.separator
        ↔ ∀ p ∈ c.patterns, p.flags.written = p.flags)
      ∧ again.table = c.table
      ∧ (c.log.enabled = true → again.log = c.log)
      ∧ (c.log.enabled = false → again.log.enabled = false)
      ∧ again.toPlain = .ok sections := by
  obtain ⟨sections, hsections, hagain⟩ := exists_toPlain (rechecked_of_ofPlain hplain h)
  refine ⟨sections, hsections, _, hagain, rfl, rfl, named_splitters_iff, rfl, fun henabled => ?_,
    fun henabled => ?_, ?_⟩
  · exact if_pos henabled
  · exact congrArg LogSettings.enabled (if_neg (henabled ▸ Bool.false_ne_true))
  · exact c.named.toPlain_kept.trans (c.toPlain_named.trans hsections)

/-- A class written by its fields, another one inside an option, a separator in its short form, a
truth value and a directory that are given as numbers, and a level in small letters. -/
theorem reload_of_short_forms :
    let data : Value := .dict
      [(.text "splitting", .dict [(.text "type", .text "char_class"), (.text "any_of", .text ";,"),
          (.text "whitespace", .bool true), (.text "trim", .dict [(.text "any_of", .text "_")]),
          (.text "omit_empty", .int 1), (.text "limit", .int 3)]),
        (.text "key_value", .text "="), (.text "data", .dict [(.text "target_column", .text "body")]),
        (.text "logging", .dict [(.text "console_level", .text "debug"), (.text "file_dir", .int 7)])]
    let c : Settings :=
      ⟨⟨.charClass ⟨.ofChars [',', ';'], true, []⟩, some (.anyOf ['_']), true, some ⟨3, by decide⟩⟩,
        some (.plain (.char '=')), ⟨"body", false, false⟩, ⟨true, "debug", "7", none, "DEBUG"⟩⟩
    data.isPlain = true ∧ ofPlain data = .ok c ∧
      ∃ sections, c.toPlain = .ok sections ∧ ∃ again, ofPlain (.dict sections) = .ok again
        ∧ again.splitter = c.splitter ∧ again.separator = c.separator ∧ again.table = c.table
        ∧ again.log = c.log ∧ again.toPlain = .ok sections := by
  intro data c
  have hread : ofPlain data = .ok c := by rfl
  obtain ⟨sections, hsections, again, hagain, -, -, hsame, htable, hlog, -, hwritten⟩ := reload rfl hread
  obtain ⟨hsplitter, hseparator⟩ := hsame.2 fun p hp => absurd hp List.not_mem_nil
  exact ⟨rfl, hread, sections, hsections, again, hagain, hsplitter, hseparator, htable, hlog rfl, hwritten⟩

/-- **Settings that do not come back**: a pattern with a flag that has no name. -/
theorem reload_unnamed :
    let data : Value := .dict [(.text "splitting", .dict [(.text "type", .text "pattern"),
      (.text "pattern", .text "a"), (.text "flags", .int 512)])]
    data.isPlain = true ∧ ∃ c, ofPlain data = .ok c ∧ ∃ sections, c.toPlain = .ok sections
      ∧ ∃ again, ofPlain (.dict sections) = .ok again ∧ again.splitter ≠ c.splitter := by
  intro data
  obtain ⟨c, hread, p, hp, hunnamed⟩ : ∃ c, ofPlain data = .ok c ∧ ∃ p ∈ c.splitter.patterns,
      p.flags.written ≠ p.flags := ⟨_, rfl, _, List.mem_singleton_self _, by decide⟩
  obtain ⟨sections, hsections, hagain⟩ := exists_toPlain (rechecked_of_ofPlain rfl hread)
  refine ⟨rfl, c, hread, sections, hsections, _, hagain, fun hsame => ?_⟩
  exact hunnamed (Splitter.named_eq_self_iff.1 hsame p hp)

end Settings

end TextSplit
