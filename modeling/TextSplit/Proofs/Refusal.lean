import TextSplit.Proofs.Reload

/-!
# Settings that are refused

Whatever plain data is read as settings, a splitter or a pair splitter, reading ends in a value or in a
report on settings, except where a value is used before it is checked.  There are three such places.  Two are
in the description of a delimiter: a kind that cannot be a key is looked up, and a pattern that cannot be read
is not always refused as malformed.  The third is the directory of the log, which may be anything that has a
text.  Beyond these, a report may have to spell a value that is too much for the machine.

* `Value.exists_sorted?` — texts can be put in order, so the names of unknown fields can be reported.
* `Vetted` — the two good ends, and a failure if one was overlooked; `Vetted.bind` combines them.
* `Fault.tell` — what a caller is told of a reading; `Vetted.tell` — what that changes.
* `Pattern.overlooked?`, `Delimiter.overlooked?` and its like — the failure that was overlooked, if any.
* `Pattern.vetted_ofValues`, `Delimiter.vetted_ofPlain`, and its like — one reader each.
* **`readers_vetted`** — the three readers of whole descriptions.
-/

namespace TextSplit

namespace Value

/-! ## Texts in order -/

lemma exists_insertSorted? (s : String) {done : List Value} (hdone : ∀ w ∈ done, ∃ t, w = .text t) :
    ∃ sorted, insertSorted? (.text s) done = some sorted ∧ ∀ w ∈ sorted, ∃ t, w = .text t := by
  induction done with
  | nil => exact ⟨_, rfl, by simp⟩
  | cons w rest ih =>
      obtain ⟨⟨t, rfl⟩, hrest⟩ := List.forall_mem_cons.1 hdone
      obtain ⟨sorted, hsorted, htexts⟩ := ih hrest
      rw [insertSorted?, isBelow?]
      cases decide (s < t) with
      | true => exact ⟨_, rfl, List.forall_mem_cons.2 ⟨⟨s, rfl⟩, hdone⟩⟩
      | false =>
          refine ⟨.text t :: sorted, by simp [hsorted], ?_⟩
          exact List.forall_mem_cons.2 ⟨⟨t, rfl⟩, htexts⟩

/-- Texts can be put in order. -/
lemma exists_sorted? {values : List Value} (hvalues : ∀ v ∈ values, ∃ s, v = .text s) :
    ∃ sorted, sorted? values = some sorted := by
  suffices ∀ done : List Value, (∀ w ∈ done, ∃ t, w = .text t) → ∃ sorted,
      values.foldl (fun done v => done.bind (insertSorted? v)) (some done) = some sorted by
    exact this [] (by simp)
  induction values with
  | nil => exact fun done _ => ⟨done, rfl⟩
  | cons v rest ih =>
      intro done hdone
      obtain ⟨⟨s, rfl⟩, hrest⟩ := List.forall_mem_cons.1 hvalues
      obtain ⟨next, hnext, htexts⟩ := exists_insertSorted? s hdone
      rw [List.foldl_cons, Option.bind_some, hnext]
      exact ih hrest next htexts

lemma mem_of_mem_distinct {values : List Value} {v : Value} (h : v ∈ distinct values) : v ∈ values := by
  suffices ∀ kept : List Value, v ∈ values.foldl
      (fun kept v => if kept.any (·.eqv v) then kept else kept ++ [v]) kept → v ∈ kept ∨ v ∈ values by
    exact (this [] h).resolve_left List.not_mem_nil
  clear h
  induction values with
  | nil => exact fun kept h => .inl h
  | cons w rest ih =>
      intro kept h
      rw [List.foldl_cons] at h
      split_ifs at h with hany
      · exact (ih kept h).imp_right (List.mem_cons_of_mem w)
      · rcases ih _ h with hkept | hrest
        · rcases List.mem_append.1 hkept with hkept | hw
          · exact .inl hkept
          · exact .inr (List.mem_singleton.1 hw ▸ List.mem_cons_self)
        · exact .inr (List.mem_cons_of_mem w hrest)

end Value

/-! ## How reading ends -/

/-- A reading ends in a value or in a report on settings if nothing was overlooked, and in the failure that
was overlooked otherwise. -/
inductive Vetted {α : Type} : Option Failure → Except Fault α → Prop
  | accepted (a : α) : Vetted none (.ok a)
  | refused {cause : Cause} (kind : cause.report.kind = .configuration) :
      Vetted none (Fault.refuse cause)
  | missed (failure : Failure) : Vetted (some failure) (Fault.fail failure)

/-- What is overlooked in a reading, or, if that ends in a value, in what comes next. -/
def overlookedAfter {α : Type} (x : Except Fault α) (o o' : Option Failure) : Option Failure :=
  o.or (if x.isOk then o' else none)

namespace Fault

variable {α : Type} [Machine]

/-- What a caller is told of a reading. -/
def tell (x : Except Fault α) : Except Fault α := x.mapError told

/-- Why the report that a reading ends in cannot be made, if there is one and it cannot. -/
def untold? : Except Fault α → Option Failure
  | .error (.reported cause) => cause.untold?
  | _ => none

end Fault

namespace Vetted

variable {α β : Type} {o o' : Option Failure} {x : Except Fault α} {f : α → Except Fault β}

/-- The second reading counts only if the first one ends in a value. -/
lemma bind (hx : Vetted o x) (hf : ∀ a, Vetted o' (f a)) : Vetted (overlookedAfter x o o') (x >>= f) := by
  cases hx with
  | accepted a => exact hf a
  | refused kind => exact .refused kind
  | missed failure => exact .missed failure

/-- Nothing is overlooked any more after the first reading. -/
lemma bind_left (hx : Vetted o x) (hf : ∀ a, Vetted none (f a)) : Vetted o (x >>= f) := by
  cases hx with
  | accepted a => exact hf a
  | refused kind => exact .refused kind
  | missed failure => exact .missed failure

lemma map (hx : Vetted o x) (g : α → β) : Vetted o (g <$> x) := by
  cases hx with
  | accepted a => exact .accepted (g a)
  | refused kind => exact .refused kind
  | missed failure => exact .missed failure

/-- A report that cannot be made is another failure. -/
lemma tell [Machine] (hx : Vetted o x) : Vetted (o.or (Fault.untold? x)) (Fault.tell x) := by
  cases hx with
  | accepted a => exact .accepted a
  | missed failure => exact .missed failure
  | refused kind =>
      rename_i cause
      simp only [Fault.tell, Fault.refuse, Except.mapError, Fault.told, Fault.untold?, Option.none_or]
      cases cause.untold? with
      | none => exact .refused kind
      | some failure => exact .missed failure

end Vetted

/-! ## Patterns -/

namespace Pattern

/-- What is overlooked in a pattern and its flags: a pattern that is no text, flags that are no integer and
under which the pattern is not remembered, and every fault that is not one of syntax. -/
def overlooked? [PatternReader] (source flags : Value) : Option Failure :=
  match source, flags.asInt? with
  | .text s, some n =>
    match PatternReader.compile s.toList n with
    | .ok _ => none
    | .error fault => fault.failure?
  | .text s, none =>
    match flags with
    | .real x =>
      if x.whole?.any fun n => PatternReader.remembers s.toList n && (PatternReader.compile s.toList n).isOk
      then none else some .wrongType
    | _ => some .wrongType
  | _, _ => some .wrongType

/-- What is seen of a fault is a report on settings if it is one of syntax. -/
lemma vetted_seen (source : Value) (chars : List Char) (fault : Fault) :
    Vetted fault.failure? (.error (seen source chars fault) : Except TextSplit.Fault Pattern) := by
  rw [seen]
  cases fault.failure? with
  | none => exact .refused rfl
  | some failure => exact .missed failure

/-- A number with a fraction is a set of flags only for a pattern that is remembered under it. -/
lemma vetted_remembered [PatternReader] (s : String) (x : Binary64) :
    Vetted (overlooked? (.text s) (.real x)) (ofValues.remembered (.real x) s.toList) := by
  simp only [overlooked?, Value.asInt?, ofValues.remembered]
  cases x.whole? with
  | none => exact .missed _
  | some n =>
      rw [Option.map_some, Option.any_some]
      cases PatternReader.remembers s.toList n with
      | false => exact .missed _
      | true =>
          cases PatternReader.compile s.toList n with
          | error fault => exact .missed _
          | ok p => exact .accepted p

lemma vetted_ofValues [PatternReader] {source flags : Value} (hsource : source.isPlain = true)
    (hflags : flags.isPlain = true) : Vetted (overlooked? source flags) (ofValues source flags) := by
  cases source with
  | text s =>
      cases hcount : flags.asInt? with
      | some n =>
          rw [ofValues_counted s hcount]
          simp only [overlooked?, hcount]
          cases PatternReader.compile s.toList n with
          | ok p => exact .accepted p
          | error fault => exact vetted_seen _ _ fault
      | none =>
          cases flags with
          | real x => exact vetted_remembered s x
          | bool b => exact absurd hcount (by simp [Value.asInt?])
          | int n => exact absurd hcount (by simp [Value.asInt?])
          | bytes bs => exact absurd hflags (by simp [Value.isPlain])
          | tuple items => exact absurd hflags (by simp [Value.isPlain])
          | thing t => exact absurd hflags (by simp [Value.isPlain])
          | _ => exact .missed _
  | bytes bs => exact absurd hsource (by simp [Value.isPlain])
  | tuple items => exact absurd hsource (by simp [Value.isPlain])
  | thing t => exact absurd hsource (by simp [Value.isPlain])
  | _ =>
      -- a value of any other type is not read at all
      unfold ofValues
      split_ifs <;> exact .missed _

end Pattern

/-! ## Classes and delimiters -/

/-- The class of plain fields: unknown names are texts, so they can be reported. -/
lemma CharClass.vetted_ofPlain {fields : List (Value × Value)}
    (hplain : Value.entriesPlain fields = true) : Vetted none (ofPlain (.dict fields)) := by
  have htexts : ∀ v ∈ fields.map Prod.fst, ∃ name, v = .text name := by
    intro v hv
    obtain ⟨entry, hentry, rfl⟩ := List.mem_map.1 hv
    exact (Value.entriesPlain_iff.1 hplain entry hentry).1
  have hhash : (fields.map Prod.fst).all Value.isHashable = true := by
    refine List.all_eq_true.2 fun v hv => ?_
    obtain ⟨name, rfl⟩ := htexts v hv
    rfl
  unfold ofPlain
  simp only [Value.items?, hhash]
  split_ifs with hfalse hknown
  · exact absurd hfalse (by simp)
  · unfold ofFields
    split
    · exact .accepted _
    · exact .refused rfl
  · obtain ⟨sorted, hsorted⟩ := Value.exists_sorted? fun v hv =>
      htexts v (List.mem_filter.1 (Value.mem_of_mem_distinct hv)).1
    rw [hsorted]
    exact .refused rfl

namespace Delimiter

lemma vetted_ofChar (given : Value) : Vetted none (ofChar given) := by
  unfold ofChar
  split
  · exact .accepted _
  · exact .refused rfl

lemma vetted_ofLiteral (given : Value) : Vetted none (ofLiteral given) := by
  unfold ofLiteral
  split
  · exact .accepted _
  · exact .refused rfl

lemma vetted_ofLength (given : Value) : Vetted none (ofLength given) := by
  unfold ofLength
  split
  · split_ifs
    · exact .accepted _
    · exact .refused rfl
  · exact .refused rfl

lemma vetted_ofCompiled (p : Pattern) : Vetted none (ofCompiled p) := by
  unfold ofCompiled
  split_ifs
  · exact .accepted _
  · exact .refused rfl

lemma vetted_compiled [PatternReader] {source flags : Value} (hsource : source.isPlain = true)
    (hflags : flags.isPlain = true) :
    Vetted (Pattern.overlooked? source flags) (compiled source flags) := by
  have hbind : compiled source flags = Pattern.ofValues source flags >>= ofCompiled := by
    unfold compiled
    cases Pattern.ofValues source flags <;> rfl
  rw [hbind]
  exact (Pattern.vetted_ofValues hsource hflags).bind_left vetted_ofCompiled

variable {entries : List (Value × Value)}

lemma vetted_required (entries : List (Value × Value)) (field : String) :
    Vetted none (required entries field) := by
  unfold required
  split
  · exact .accepted _
  · exact .refused rfl

/-- What is overlooked in the fields of a pattern. -/
def overlookedPattern? [PatternReader] (entries : List (Value × Value)) : Option Failure :=
  (Value.get? entries "pattern").bind fun source =>
    Pattern.overlooked? source ((Value.get? entries "flags").getD (.int 0))

/-- What is overlooked in the description of a delimiter: a kind that cannot be a key, and what is
overlooked in a pattern. -/
def overlooked? [PatternReader] (entries : List (Value × Value)) : Option Failure :=
  match Value.get? entries "type" with
  | some (.list _) | some (.dict _) => some .wrongType
  | some (.text kind) => if kind = "pattern" then overlookedPattern? entries else none
  | _ => none

lemma vetted_ofEntries_pattern [PatternReader] (hplain : Value.entriesPlain entries = true) :
    Vetted (overlookedPattern? entries) (ofEntries "pattern" entries) := by
  show Vetted _ (required entries "pattern" >>= fun source =>
    compiled source ((Value.get? entries "flags").getD (.int 0)))
  rw [overlookedPattern?, required]
  cases hsource : Value.get? entries "pattern" with
  | none => exact .refused rfl
  | some source =>
      refine vetted_compiled (Value.isPlain_of_get? hplain hsource) ?_
      cases hflags : Value.get? entries "flags" with
      | none => rfl
      | some flags => exact Value.isPlain_of_get? hplain hflags

/-- The fields of any other kind. -/
lemma vetted_ofEntries [PatternReader] (hplain : Value.entriesPlain entries = true) {kind : String}
    (hkind : kind ≠ "pattern") : Vetted none (ofEntries kind entries) := by
  unfold ofEntries
  split
  · exact (vetted_required entries _).bind_left vetted_ofChar
  · exact (vetted_required entries _).bind_left vetted_ofLiteral
  · exact absurd rfl hkind
  · exact (vetted_required entries _).bind_left vetted_ofLength
  · have hfields := Value.entriesPlain_without hplain ["type"]
    exact (CharClass.vetted_ofPlain hfields).bind_left fun k => .accepted _

/-- **The kind is looked up before it is checked.** -/
lemma vetted_ofPlain [PatternReader] (hplain : Value.entriesPlain entries = true) :
    Vetted (overlooked? entries) (ofPlain (.dict entries)) := by
  cases hget : Value.get? entries "type" with
  | none =>
      simp only [overlooked?, ofPlain, kindOf, hget]
      exact .refused rfl
  | some kind =>
      have hkind := Value.isPlain_of_get? hplain hget
      simp only [overlooked?, ofPlain, kindOf, hget]
      cases kind with
      | text name =>
          by_cases hknown : Cause.delimiterTypes.contains name = true
          · simp only [Value.isHashable, hknown, Bool.not_true, Bool.false_eq_true, if_false, if_true]
            by_cases hpattern : name = "pattern"
            · subst hpattern
              exact vetted_ofEntries_pattern hplain
            · rw [if_neg hpattern]
              exact vetted_ofEntries hplain hpattern
          · have hpattern : name ≠ "pattern" := by
              rintro rfl
              exact hknown rfl
            simp only [Value.isHashable, hknown, hpattern, Bool.not_true, Bool.false_eq_true, if_false]
            exact .refused rfl
      | list items => exact .missed _
      | dict fields => exact .missed _
      | bytes bs => exact absurd hkind (by simp [Value.isPlain])
      | tuple items => exact absurd hkind (by simp [Value.isPlain])
      | thing t => exact absurd hkind (by simp [Value.isPlain])
      | _ => exact .refused rfl

end Delimiter

/-! ## Splitters -/

namespace Splitter

/-- What is overlooked in the description of a splitter. -/
def overlooked? [PatternReader] : Value → Option Failure
  | .dict entries => Delimiter.overlooked? entries
  | _ => none

lemma vetted_withTrim (s : Splitter) {trim : Value} (hplain : trim.isPlain = true) :
    Vetted none (s.withTrim trim) := by
  unfold withTrim
  split
  · exact .accepted _
  · exact .accepted _
  · exact (CharClass.vetted_ofPlain hplain).map _
  · exact .accepted _
  · split_ifs
    · exact .accepted _
    · exact .refused rfl

lemma vetted_withLimit (s : Splitter) (limit : Value) : Vetted none (s.withLimit limit) := by
  have hlimit : Vetted none (limitOf limit) := by
    unfold limitOf
    split
    · split_ifs
      · exact .accepted _
      · exact .refused rfl
    · exact .refused rfl
  unfold withLimit
  split
  · exact .accepted _
  · exact hlimit.map _

/-- Options are checked. -/
lemma vetted_ofOptions (d : Delimiter) {entries : List (Value × Value)}
    (hplain : Value.entriesPlain entries = true) : Vetted none (ofOptions d entries) := by
  refine Vetted.bind_left (vetted_withTrim _ ?_) fun s => vetted_withLimit _ _
  cases htrim : Value.get? entries "trim" with
  | none => rfl
  | some trim => exact Value.isPlain_of_get? hplain htrim

lemma vetted_ofPlain [PatternReader] {data : Value} (hplain : data.isPlain = true) :
    Vetted (overlooked? data) (ofPlain data) := by
  cases data with
  | dict entries =>
      have hwithout : overlooked? (.dict entries)
          = Delimiter.overlooked? (Value.without entries optionNames) := by
        rw [overlooked?, Delimiter.overlooked?, Delimiter.overlooked?, Delimiter.overlookedPattern?,
          Delimiter.overlookedPattern?, Value.get?_without (by decide), Value.get?_without (by decide),
          Value.get?_without (by decide)]
      rw [hwithout]
      have hfields := Value.entriesPlain_without hplain optionNames
      exact (Delimiter.vetted_ofPlain hfields).bind_left fun d => vetted_ofOptions d hplain
  | _ => exact .refused rfl

end Splitter

/-- What is overlooked in the description of a pair splitter: in the one section, or in the other if the
first one describes a splitter. -/
def PairSplitter.overlooked? [PatternReader] : Value → Option Failure
  | .dict sections =>
    match Value.get? sections "entries", Value.get? sections "key_value" with
    | some entries, some fields =>
      overlookedAfter (Splitter.ofPlain entries) (Splitter.overlooked? entries) (Splitter.overlooked? fields)
    | _, _ => none
  | _ => none

lemma PairSplitter.vetted_ofPlain [PatternReader] {data : Value} (hplain : data.isPlain = true) :
    Vetted (overlooked? data) (ofPlain data) := by
  cases data with
  | dict sections =>
      cases hentries : Value.get? sections "entries" with
      | none =>
          simp only [overlooked?, ofPlain, hentries]
          exact .refused rfl
      | some entries =>
          cases hfields : Value.get? sections "key_value" with
          | none =>
              simp only [overlooked?, ofPlain, hentries, hfields]
              exact .refused rfl
          | some fields =>
              simp only [overlooked?, ofPlain, hentries, hfields]
              have hplain₁ := Value.isPlain_of_get? hplain hentries
              have hplain₂ := Value.isPlain_of_get? hplain hfields
              exact (Splitter.vetted_ofPlain hplain₁).bind fun _ =>
                (Splitter.vetted_ofPlain hplain₂).bind_left fun _ => .accepted _
  | _ => exact .refused rfl

/-! ## Sections -/

namespace SplitterDraft

/-- A section that says that there is no splitter is not read any further. -/
lemma overlooked?_of_saysNone [PatternReader] {entries : List (Value × Value)}
    (h : saysNone ((Value.get? entries "type").getD .null) = true) :
    Delimiter.overlooked? entries = none := by
  rw [Delimiter.overlooked?]
  cases hkind : Value.get? entries "type" with
  | none => rfl
  | some kind =>
      rw [hkind] at h
      cases kind with
      | text name =>
          have hname : name = "None" := by simpa [saysNone, Value.eqv, Value.asInt?] using h
          simp [hname]
      | list items => exact absurd h (by simp [saysNone, Value.eqv, Value.asInt?])
      | dict fields => exact absurd h (by simp [saysNone, Value.eqv, Value.asInt?])
      | _ => rfl

lemma vetted_on_text (s : String) : Vetted none (Splitter.on (.text s)) := by
  refine Vetted.map ?_ _
  split_ifs
  · exact Delimiter.vetted_ofChar _
  · exact Delimiter.vetted_ofLiteral _

lemma vetted_ofPlain [PatternReader] (name : String) {data : Value} (hplain : data.isPlain = true) :
    Vetted (Splitter.overlooked? data) (ofPlain name data) := by
  cases data with
  | thing t => exact absurd hplain (by simp [Value.isPlain])
  | null => exact .accepted _
  | text s => exact (vetted_on_text s).bind_left fun s => .accepted _
  | dict entries =>
      simp only [ofPlain]
      split_ifs with hnone
      · rw [Splitter.overlooked?, overlooked?_of_saysNone hnone]
        exact .accepted _
      · exact (Splitter.vetted_ofPlain hplain).bind_left fun s => .accepted _
  | _ => exact .refused rfl

lemma vetted_check (d : SplitterDraft) : Vetted none d.check := by
  unfold check
  split
  · exact .accepted _
  · exact .refused rfl
  · exact .refused rfl

lemma vetted_checkSeparator (d : SplitterDraft) : Vetted none d.checkSeparator := by
  unfold checkSeparator
  split
  · exact .accepted _
  · exact .accepted _
  · exact .refused rfl

end SplitterDraft

namespace TableDraft

lemma vetted_ofPlain (data : Value) : Vetted none (ofPlain data) := by
  unfold ofPlain
  split
  · exact .accepted _
  · exact .accepted _
  · exact .refused rfl

lemma vetted_checkFlag (name : String) (given : Value) : Vetted none (checkFlag name given) := by
  unfold checkFlag
  split
  · exact .accepted _
  · exact .refused rfl

lemma vetted_check (d : TableDraft) : Vetted none d.check := by
  unfold check
  split
  · split_ifs
    · exact .refused rfl
    · exact (vetted_checkFlag _ _).bind_left fun _ => (vetted_checkFlag _ _).bind_left fun _ => .accepted _
  · exact .refused rfl

end TableDraft

namespace LogDraft

/-- What is overlooked in the section on logging: a directory that the machine cannot spell. -/
def overlooked? [Machine] : Value → Option Failure
  | .dict entries => unreadable? entries
  | _ => none

lemma vetted_ofPlain [Machine] (data : Value) : Vetted (overlooked? data) (ofPlain data) := by
  cases data with
  | null => exact .accepted _
  | dict entries =>
      simp only [overlooked?, ofPlain]
      cases unreadable? entries with
      | none => exact .accepted _
      | some failure => exact .missed failure
  | _ => exact .refused rfl

lemma vetted_checkLevel (option : String) (given : Value) : Vetted none (checkLevel option given) := by
  refine Vetted.bind_left ?_ fun _ => .accepted _
  unfold Level.check
  split
  · split_ifs
    · exact .accepted _
    · exact .refused rfl
  · exact .refused rfl

lemma vetted_checkFileName (given : Value) : Vetted none (checkFileName given) := by
  unfold checkFileName
  split
  · exact .accepted _
  · split_ifs
    · exact .refused rfl
    · exact .accepted _
  · exact .refused rfl

lemma vetted_check (d : LogDraft) : Vetted none d.check := by
  unfold check
  split
  · exact .refused rfl
  · exact (vetted_checkLevel _ _).bind_left fun _ => (vetted_checkLevel _ _).bind_left fun _ =>
      (vetted_checkFileName _).bind_left fun _ => .accepted _

end LogDraft

/-! ## The whole -/

/-- What is overlooked in settings: in the section of the splitter, in that of the separator, or in that on
logging, each only if the sections before it could be read. -/
def Settings.overlooked? [PatternReader] [Machine] : Value → Option Failure
  | .dict sections =>
    let splitting := sectionOf sections "splitting"
    let separating := sectionOf sections "key_value"
    overlookedAfter (SplitterDraft.ofPlain "splitting" splitting) (Splitter.overlooked? splitting) <|
      overlookedAfter (SplitterDraft.ofPlain "key_value" separating) (Splitter.overlooked? separating) <|
        overlookedAfter (TableDraft.ofPlain (sectionOf sections "data")) none <|
          LogDraft.overlooked? (sectionOf sections "logging")
  | _ => none

lemma Settings.vetted_ofDrafts (splitting separating : SplitterDraft) (table : TableDraft)
    (log : LogDraft) : Vetted none (ofDrafts splitting separating table log) :=
  splitting.vetted_check.bind_left fun _ => separating.vetted_checkSeparator.bind_left fun _ =>
    table.vetted_check.bind_left fun _ => log.vetted_check.bind_left fun _ => .accepted _

lemma Settings.vetted_ofPlain [PatternReader] [Machine] {data : Value} (hplain : data.isPlain = true) :
    Vetted (overlooked? data) (ofPlain data) := by
  cases data with
  | dict sections =>
      have hsection := isPlain_sectionOf hplain
      refine (SplitterDraft.vetted_ofPlain _ (hsection _)).bind fun splitting => ?_
      refine (SplitterDraft.vetted_ofPlain _ (hsection _)).bind fun separating => ?_
      refine (TableDraft.vetted_ofPlain _).bind fun table => ?_
      exact (LogDraft.vetted_ofPlain _).bind_left fun log => vetted_ofDrafts splitting separating table log
  | _ => exact .refused rfl

/-- **Plain data is read or refused, unless something was overlooked.**  Reading settings, a splitter or a
pair splitter ends, as far as a caller is told, in a value or in a report on settings exactly if nothing was
overlooked and a report can be made.  Otherwise it ends in the failure that was overlooked, or in the one that
keeps the report from being made. -/
theorem readers_vetted [PatternReader] [Machine] {data : Value} (hplain : data.isPlain = true) :
    Vetted ((Settings.overlooked? data).or (Fault.untold? (Settings.ofPlain data)))
        (Fault.tell (Settings.ofPlain data))
      ∧ Vetted ((Splitter.overlooked? data).or (Fault.untold? (Splitter.ofPlain data)))
        (Fault.tell (Splitter.ofPlain data))
      ∧ Vetted ((PairSplitter.overlooked? data).or (Fault.untold? (PairSplitter.ofPlain data)))
        (Fault.tell (PairSplitter.ofPlain data)) :=
  ⟨(Settings.vetted_ofPlain hplain).tell, (Splitter.vetted_ofPlain hplain).tell,
    (PairSplitter.vetted_ofPlain hplain).tell⟩

/-- Negative flags of a separator, one of which a text pattern may not have, are overlooked in settings.  The
same mapping lacks the kind of a splitter and a section of a pair splitter, which is reported. -/
theorem readers_vetted_negative_flags :
    let data : Value := .dict [(.text "splitting", .text ","), (.text "key_value", .dict
      [(.text "type", .text "pattern"), (.text "pattern", .text "="), (.text "flags", .int (-1))])]
    data.isPlain = true ∧ Settings.overlooked? data = some .wrongValue
      ∧ Splitter.overlooked? data = none ∧ PairSplitter.overlooked? data = none
      ∧ Vetted (some .wrongValue) (Fault.tell (Settings.ofPlain data))
      ∧ Vetted none (Fault.tell (Splitter.ofPlain data))
      ∧ Vetted none (Fault.tell (PairSplitter.ofPlain data)) := by
  intro data
  have hplain : data.isPlain = true := by rfl
  exact ⟨hplain, rfl, rfl, rfl, readers_vetted hplain⟩

/-- **A kind that is a list** ends in no report. -/
theorem ofPlain_list_kind :
    let data : Value := .dict [(.text "splitting", .dict [(.text "type", .list [.text "char"])])]
    data.isPlain = true ∧ Fault.tell (Settings.ofPlain data) = Fault.fail .wrongType := by
  intro data
  exact ⟨rfl, rfl⟩

end TextSplit
