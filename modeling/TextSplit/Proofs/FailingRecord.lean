import TextSplit.Proofs.PairTable

/-!
# The record that is reported

The records of a table are split in a loop, and the loop ends with the first record that cannot be split.
What can be wrong with a record comes from three places, and only what is wrong with its text is marked with
the number of the record: that there is no text at all is reported as it is.  Other faults of the whole can
only be due to keys, after every record has been split.

* `Cause.OfRecord`, `Cause.reportOn` — what can be wrong with a record, and the report on it.
* `PairSplitter.splitValue_cases`, `Fault.report?_atRecord` — what splitting a record says, and its mark.
* `FirstFault` — the first record that cannot be split.
* **`pairsFrom_eq_error_iff`** — the loop ends with that record.
* `Fault.IsClash`, `Table.isClash_of_splitPairs` — what can go wrong after the loop.
* **`Settings.splitPairs_first_fault`** — what comes of a loaded table.
-/

namespace TextSplit

/-! ## One record -/

/-- What can be wrong with a record: it has no text, or an entry of its text has no place among pairs. -/
inductive Cause.OfRecord : Cause → Prop
  | textNull (splitter : String) : OfRecord (.textNull splitter)
  | entryMalformed (entry : String) (fields : List String) : OfRecord (.entryMalformed entry fields)
  | keyDuplicate (key entry : String) : OfRecord (.keyDuplicate key entry)

/-- The report on a record: that of its text, with the number of the record if the data are at fault. -/
def Cause.reportOn (cause : Cause) (record : Nat) : Report :=
  { cause.report with
    details := cause.report.details
      ++ if cause.report.kind.above.contains .data then [(.text Defaults.recordColumn, .int record)]
        else [] }

/-- The report on a fault in a record is that report. -/
lemma Fault.report?_atRecord {cause : Cause} (h : cause.OfRecord) (record : Nat) :
    ((Fault.reported cause).atRecord record).report? = some (cause.reportOn record) := by
  cases h <;> rfl

/-- A fault that concerns no record: keys that have the names of columns. -/
def Fault.IsClash : Fault → Prop
  | .reported (.keysClash _) => True
  | _ => False

/-- A fault in a record is none of these. -/
lemma Cause.OfRecord.not_isClash {cause : Cause} (h : cause.OfRecord) (record : Nat) :
    ¬ ((Fault.reported cause).atRecord record).IsClash := by
  cases h <;> exact not_false

/-- A value has pairs, or something is wrong with it as a record. -/
lemma PairSplitter.splitValue_cases (m : PairSplitter) (text : Value) :
    (∃ pairs, m.splitValue text = .ok pairs)
      ∨ ∃ cause : Cause, cause.OfRecord ∧ m.splitValue text = .error (.reported cause) := by
  unfold splitValue
  split
  · exact Or.inr ⟨_, .textNull _, rfl⟩
  · cases m.split text.contents with
    | ok pairs => exact Or.inl ⟨pairs, rfl⟩
    | error fault =>
        cases fault with
        | malformed entry fields => exact Or.inr ⟨_, .entryMalformed _ _, rfl⟩
        | duplicate key entry => exact Or.inr ⟨_, .keyDuplicate _ _, rfl⟩

/-! ## All records in turn -/

/-- **The first record that cannot be split**: its number, and what is wrong with it.  Of later records
nothing is said. -/
structure FirstFault (m : PairSplitter) (texts : List Value) (record : Nat) (cause : Cause) : Prop where
  fails : ∃ text, texts[record]? = some text ∧ m.splitValue text = .error (.reported cause)
  before : ∀ earlier < record, ∀ text, texts[earlier]? = some text → ∃ pairs, m.splitValue text = .ok pairs

namespace FirstFault

variable {m : PairSplitter} {text : Value} {rest : List Value} {record : Nat} {cause other : Cause}

lemma ofRecord {texts : List Value} (h : FirstFault m texts record cause) : cause.OfRecord := by
  obtain ⟨text, -, hfails⟩ := h.fails
  rcases m.splitValue_cases text with ⟨pairs, hok⟩ | ⟨other, hother, hother'⟩
  · exact absurd (hok.symm.trans hfails) (by simp)
  · exact Fault.reported.inj (Except.error.inj (hother'.symm.trans hfails)) ▸ hother

lemma head (h : m.splitValue text = .error (.reported cause)) : FirstFault m (text :: rest) 0 cause :=
  ⟨⟨text, rfl, h⟩, fun earlier hearlier => absurd hearlier (Nat.not_lt_zero earlier)⟩

/-- If the first record cannot be split, it is the first one that cannot. -/
lemma eq_of_head (h : m.splitValue text = .error (.reported cause))
    (hfirst : FirstFault m (text :: rest) record other) : record = 0 ∧ other = cause := by
  cases record with
  | zero =>
      obtain ⟨_, ⟨⟩, hfails⟩ := hfirst.fails
      exact ⟨rfl, Fault.reported.inj (Except.error.inj (hfails.symm.trans h))⟩
  | succ n =>
      obtain ⟨pairs, hpairs⟩ := hfirst.before 0 n.succ_pos text rfl
      exact absurd (h.symm.trans hpairs) (by simp)

/-- A record that can be split moves the others by one. -/
lemma cons_iff {pairs : Table.Pairs} (h : m.splitValue text = .ok pairs) :
    FirstFault m (text :: rest) record cause
      ↔ ∃ n, record = n + 1 ∧ FirstFault m rest n cause := by
  constructor
  · intro hfirst
    cases record with
    | zero =>
        obtain ⟨_, ⟨⟩, hfails⟩ := hfirst.fails
        exact absurd (h.symm.trans hfails) (by simp)
    | succ n =>
        exact ⟨n, rfl, hfirst.fails,
          fun earlier hearlier => hfirst.before (earlier + 1) (Nat.succ_lt_succ hearlier)⟩
  · rintro ⟨n, rfl, hfirst⟩
    refine ⟨hfirst.fails, fun earlier hearlier other hother => ?_⟩
    cases earlier with
    | zero =>
        obtain rfl := Option.some.inj hother
        exact ⟨pairs, h⟩
    | succ j => exact hfirst.before j (Nat.lt_of_succ_lt_succ hearlier) other hother

end FirstFault

namespace Table

variable {t : Table} {m : PairSplitter} {texts : List Value} {pairs : List Pairs}

lemma pairsFrom_cons_of_error {first : Nat} {text : Value} {fault : Fault}
    (h : m.splitValue text = .error fault) :
    pairsFrom m first (text :: texts) = .error (fault.atRecord first) := by
  rw [pairsFrom, h]

lemma pairsFrom_cons_of_ok {first : Nat} {text : Value} {fault : Fault} {record : Pairs}
    (h : m.splitValue text = .ok record) :
    pairsFrom m first (text :: texts) = .error fault ↔ pairsFrom m (first + 1) texts = .error fault := by
  rw [pairsFrom, h]
  cases pairsFrom m (first + 1) texts <;> simp

/-- **Where the loop ends.**  It fails exactly with the first record that cannot be split, marked with its
number.  The induction is on the records, with the number of the first one generalized. -/
theorem pairsFrom_eq_error_iff {first : Nat} {fault : Fault} :
    pairsFrom m first texts = .error fault
      ↔ ∃ record cause, FirstFault m texts record cause
        ∧ fault = (Fault.reported cause).atRecord (first + record) := by
  induction texts generalizing first with
  | nil =>
      refine ⟨fun h => absurd h (by simp [pairsFrom]), ?_⟩
      rintro ⟨record, cause, hfirst, -⟩
      obtain ⟨text, htext, -⟩ := hfirst.fails
      exact absurd htext (by simp)
  | cons text rest ih =>
      rcases m.splitValue_cases text with ⟨pairs, hok⟩ | ⟨cause, -, hfails⟩
      · simp only [pairsFrom_cons_of_ok hok, ih, FirstFault.cons_iff hok]
        constructor
        · rintro ⟨n, cause, hfirst, rfl⟩
          exact ⟨n + 1, cause, ⟨n, rfl, hfirst⟩, by rw [Nat.add_right_comm, Nat.add_assoc]⟩
        · rintro ⟨_, cause, ⟨n, rfl, hfirst⟩, rfl⟩
          exact ⟨n, cause, hfirst, by rw [Nat.add_right_comm, Nat.add_assoc]⟩
      · rw [pairsFrom_cons_of_error hfails, Except.error.injEq]
        constructor
        · rintro rfl
          exact ⟨0, cause, .head hfails, rfl⟩
        · rintro ⟨record, other, hfirst, rfl⟩
          obtain ⟨rfl, rfl⟩ := hfirst.eq_of_head hfails
          rfl

/-- Some record cannot be split exactly if there is a first one. -/
lemma exists_firstFault_iff :
    (∃ record cause, FirstFault m texts record cause)
      ↔ ∃ text ∈ texts, ∃ fault, m.splitValue text = .error fault := by
  constructor
  · rintro ⟨record, cause, hfirst⟩
    obtain ⟨text, htext, hfails⟩ := hfirst.fails
    exact ⟨text, List.mem_of_getElem? htext, _, hfails⟩
  · rintro ⟨text, htext, fault, hfails⟩
    cases hpairs : pairsFrom m 0 texts with
    | error fault =>
        obtain ⟨record, cause, hfirst, -⟩ := pairsFrom_eq_error_iff.1 hpairs
        exact ⟨record, cause, hfirst⟩
    | ok pairs =>
        have hmem := List.mem_map_of_mem (f := m.splitValue) htext
        rw [pairsFrom_eq_ok_iff.1 hpairs, hfails] at hmem
        obtain ⟨record, -, hrecord⟩ := List.mem_map.1 hmem
        exact absurd hrecord (by simp)

/-- If every record can be split, there are pairs for all of them. -/
lemma exists_pairs (h : ∀ text ∈ texts, ∃ record, m.splitValue text = .ok record) :
    ∃ pairs : List Pairs, texts.map m.splitValue = pairs.map .ok := by
  cases hpairs : pairsFrom m 0 texts with
  | ok pairs => exact ⟨pairs, pairsFrom_eq_ok_iff.1 hpairs⟩
  | error fault =>
      obtain ⟨record, cause, hfirst, -⟩ := pairsFrom_eq_error_iff.1 hpairs
      obtain ⟨text, htext, hfails⟩ := hfirst.fails
      obtain ⟨record, hok⟩ := h text (List.mem_of_getElem? htext)
      exact absurd (hok.symm.trans hfails) (by simp)

/-! ## After the loop -/

variable {s : TableSettings}

/-- Finishing succeeds on a table that has its texts, and keeps every other column. -/
lemma finish_of_has (htarget : t.has s.target = true) :
    finish s t = .ok ⟨t.index, t.kept s⟩ := by
  have hnone : ∀ c ∈ ([] : List Column), c.isNamed s.target = false := by simp
  have h : finish s ⟨t.index, t.columns ++ []⟩ = .ok ⟨t.index, t.kept s ++ []⟩ :=
    finish_append hnone htarget
  rwa [List.append_nil, List.append_nil] at h

lemma column?_kept {name : String} (hne : s.target ≠ name) :
    column? ⟨t.index, t.kept s⟩ name = t.column? name := by
  rw [column?, kept, find?_filter_isNamed fun c hc => ?_, column?]
  rw [Column.not_isNamed_of_ne hne.symm hc, Bool.and_false, Bool.not_false]

/-- **The pairs stand in a column of their own**, in the order of the records, unless they are expanded. -/
lemma splitPairs_kept (hs : s.expandPairs = false) (hcolumn : t.column s.target = .ok texts)
    (htarget : t.has s.target = true) (hne : s.target ≠ Defaults.pairsColumn)
    (hpairs : texts.map m.splitValue = pairs.map .ok) :
    ∃ result, t.splitPairs m s = .ok result
      ∧ result.column Defaults.pairsColumn = .ok (pairCells pairs) := by
  have hset : (t.set Defaults.pairsColumn (pairCells pairs)).has s.target = true := by
    rw [has_set, htarget, Bool.true_or]
  refine ⟨_, ?_, column_eq_ok_iff.2 ((column?_kept hne).trans (column?_set t _ (pairCells pairs)))⟩
  rw [Table.splitPairs_eq hcolumn hpairs, hs]
  exact finish_of_has hset

/-- Once all records have been split, nothing but a clash can go wrong: the texts are still there when it
comes to dropping them. -/
lemma isClash_of_splitPairs (hcolumn : t.column s.target = .ok texts) (htarget : t.has s.target = true)
    (hne : s.target ≠ Defaults.pairsColumn) (hpairs : texts.map m.splitValue = pairs.map .ok)
    {fault : Fault} (h : t.splitPairs m s = .error fault) : fault.IsClash := by
  cases hs : s.expandPairs with
  | false =>
      obtain ⟨result, hresult, -⟩ := splitPairs_kept hs hcolumn htarget hne hpairs
      exact absurd (h.symm.trans hresult) (by simp)
  | true =>
      have hset : (t.set Defaults.pairsColumn (pairCells pairs)).has Defaults.pairsColumn = true := by
        rw [has_set, beq_self_eq_true, Bool.or_true]
      rw [Table.splitPairs_eq hcolumn hpairs, hs, if_pos rfl, expand_eq hset] at h
      split_ifs at h
      · -- the column of the texts has another name than that of the pairs, and is not left out with it
        obtain ⟨c, hc, hname⟩ := List.any_eq_true.1 htarget
        have hkept : c ∈ (t.set Defaults.pairsColumn (pairCells pairs)).columns :=
          mem_set_of_mem hc (Column.not_isNamed_of_ne hne hname)
        have hhas : has ⟨t.index, (t.set Defaults.pairsColumn (pairCells pairs)).columns.filter
            (fun c => !c.isNamed Defaults.pairsColumn) ++ keyColumns pairs⟩ s.target = true :=
          List.any_eq_true.2 ⟨c, List.mem_append_left _ (List.mem_filter.2
            ⟨hkept, by rw [Column.not_isNamed_of_ne hne hname]; rfl⟩), hname⟩
        exact absurd (h.symm.trans (finish_of_has hhas)) (by simp)
      · obtain rfl := Except.error.inj h
        exact trivial

/-- A table that has been loaded has its texts, and its records have been numbered. -/
lemma eq_withNumbers_of_load {target : String} {f : Folder} {source : Source} {input loaded : Table}
    (hinput : ofSource target f source = .ok input) (hload : load target f source = .ok loaded) :
    input.has target = true ∧ loaded = input.withNumbers := by
  obtain ⟨t, ht, hrecords⟩ := bind_eq_ok_iff.1 hload
  obtain rfl := Except.ok.inj (hinput.symm.trans ht)
  rw [withRecords] at hrecords
  split_ifs at hrecords with htarget
  · exact ⟨htarget, (Except.ok.inj hrecords).symm⟩
  · exact absurd hrecords (by simp [Fault.refuse])

/-- The loop ends the whole. -/
lemma splitPairs_of_firstFault (hcolumn : t.column s.target = .ok texts) {record : Nat} {cause : Cause}
    (h : FirstFault m texts record cause) :
    t.splitPairs m s = .error ((Fault.reported cause).atRecord record) := by
  have hloop : pairsFrom m 0 texts = .error ((Fault.reported cause).atRecord record) :=
    pairsFrom_eq_error_iff.2 ⟨record, cause, h, by rw [Nat.zero_add]⟩
  rw [splitPairs, hcolumn]
  show pairsFrom m 0 texts >>= _ = _
  rw [hloop]
  rfl

end Table

namespace Settings

open Table

variable {s : Settings} {m : PairSplitter}

/-- **The record that is reported.**  Let a separator of keys and values be set, and let a source be loaded
whose table has no column with a name that processing uses.  The loaded table has the texts of the source and
their numbers.

* Splitting it fails for other reasons than keys with the names of columns exactly if some text cannot be
  split, and then there is a first one.
* Whatever stands behind it, that one is reported: the report is that on its text, with nothing but its
  number added to the details if the data are at fault.
* If every text can be split and pairs are not expanded, splitting succeeds, and the pairs of each text stand
  in their column in the order of the texts. -/
theorem splitPairs_first_fault {f : Folder} {source : Source} {input loaded : Table}
    (hm : s.pairSplitter? = some m) (hinput : ofSource s.table.target f source = .ok input)
    (hfresh : ∀ name ∈ Defaults.pairsColumn :: addedNames, input.has name = false)
    (hload : load s.table.target f source = .ok loaded) :
    ∃ texts, input.column s.table.target = .ok texts
      ∧ (loaded.column s.table.target = .ok texts
        ∧ loaded.column Defaults.recordColumn = .ok (counted input.size))
      ∧ ((∃ fault, s.splitPairs loaded = .error fault ∧ ¬ fault.IsClash)
        ↔ ∃ text ∈ texts, ∃ fault, m.splitValue text = .error fault)
      ∧ ((∃ text ∈ texts, ∃ fault, m.splitValue text = .error fault)
        → ∃ record cause, FirstFault m texts record cause)
      ∧ (∀ record cause, FirstFault m texts record cause →
        ∃ fault, s.splitPairs loaded = .error fault ∧ fault.report? = some (cause.reportOn record))
      ∧ (s.table.expandPairs = false → (∀ text ∈ texts, ∃ record, m.splitValue text = .ok record) →
        ∃ pairs result, texts.map m.splitValue = pairs.map .ok ∧ s.splitPairs loaded = .ok result
          ∧ result.column Defaults.pairsColumn = .ok (pairCells pairs)) := by
  obtain ⟨htarget, rfl⟩ := eq_withNumbers_of_load hinput hload
  have hne : ∀ name ∈ Defaults.pairsColumn :: addedNames, s.table.target ≠ name := by
    rintro name hname rfl
    exact absurd (htarget.symm.trans (hfresh _ hname)) (by simp)
  have hsplit : s.splitPairs input.withNumbers = input.withNumbers.splitPairs m s.table := by
    rw [splitPairs, hm]
  have hhas : input.withNumbers.has s.table.target = true := by
    rw [withNumbers, has_set, htarget, Bool.true_or]
  have htexts := column?_eq_some_of_has htarget
  have hcolumn : input.withNumbers.column s.table.target
      = .ok ((input.column? s.table.target).getD []) :=
    column_eq_ok_iff.2 ((column?_set_of_ne (hne Defaults.recordColumn (by decide)).symm).trans htexts)
  rw [hsplit]
  refine ⟨_, column_eq_ok_iff.2 htexts, ⟨hcolumn, column_eq_ok_iff.2 (column?_set _ _ _)⟩, ⟨?_, ?_⟩,
    exists_firstFault_iff.2, fun record cause hfirst => ?_, fun hexpand hall => ?_⟩
  · rintro ⟨fault, hfault, hclash⟩
    by_cases hall : ∀ text ∈ (input.column? s.table.target).getD [], ∃ record, m.splitValue text = .ok record
    · obtain ⟨pairs, hpairs⟩ := exists_pairs hall
      exact absurd (isClash_of_splitPairs hcolumn hhas (hne _ List.mem_cons_self) hpairs hfault) hclash
    · simp only [not_forall, exists_prop] at hall
      obtain ⟨text, htext, hnot⟩ := hall
      rcases m.splitValue_cases text with hok | ⟨cause, -, hfails⟩
      · exact absurd hok hnot
      · exact ⟨text, htext, _, hfails⟩
  · intro hfails
    obtain ⟨record, cause, hfirst⟩ := exists_firstFault_iff.2 hfails
    exact ⟨_, splitPairs_of_firstFault hcolumn hfirst, hfirst.ofRecord.not_isClash record⟩
  · exact ⟨_, splitPairs_of_firstFault hcolumn hfirst, Fault.report?_atRecord hfirst.ofRecord record⟩
  · obtain ⟨pairs, hpairs⟩ := exists_pairs hall
    obtain ⟨result, hresult⟩ := splitPairs_kept hexpand hcolumn hhas (hne _ List.mem_cons_self) hpairs
    exact ⟨pairs, result, hpairs, hresult⟩

/-- Three records that are split at commas and equal signs.  The second one repeats a key and is reported,
though the third one has no text at all; without these two the first one is split. -/
theorem splitPairs_first_fault_repeated :
    let s : Settings := ⟨Splitter.plain (.char ','), some (Splitter.plain (.char '=')), ⟨"text", false, false⟩,
      ⟨false, "INFO", "delimit_logs", none, "DEBUG"⟩⟩
    let input : Table := ⟨[.int 7, .int 7, .int 7], [⟨.text "text", [.text "a=1", .text "b=1,b=2", .null]⟩]⟩
    let short : Table := ⟨[.int 7], [⟨.text "text", [.text "a=1"]⟩]⟩
    (∀ name ∈ Defaults.pairsColumn :: addedNames, input.has name = false)
      ∧ load "text" .empty (.table input) = .ok input.withNumbers
      ∧ (∃ fault report, s.splitPairs input.withNumbers = .error fault ∧ fault.report? = some report
        ∧ report.message = "Duplicate key [b] found. (key='b', entry='b=2', delimit_record_id=1)")
      ∧ ∃ result, s.splitPairs short.withNumbers = .ok result
        ∧ result.column "delimit_pairs" = .ok [.dict [(.text "a", .text "1")]] := by
  intro s input short
  let m : PairSplitter := ⟨Splitter.plain (.char ','), Splitter.plain (.char '=')⟩
  have hfresh : ∀ name ∈ Defaults.pairsColumn :: addedNames, input.has name = false := by decide
  have hone : m.splitValue (.text "a=1") = .ok [(['a'], ['1'])] := splitValue_eq_ok (by decide +kernel)
  have htwo : m.splitValue (.text "b=1,b=2") = .error (.reported (.keyDuplicate "b" "b=2")) := by
    have hsplit : m.split "b=1,b=2".toList = .error (.duplicate ['b'] ['b', '=', '2']) := by decide +kernel
    rw [← String.ofList_toList (s := "b=1,b=2"), m.splitValue_text, hsplit]
    rfl
  have hfirst : FirstFault m [.text "a=1", .text "b=1,b=2", .null] 1 (.keyDuplicate "b" "b=2") :=
    (FirstFault.cons_iff hone).2 ⟨0, rfl, .head htwo⟩
  refine ⟨hfresh, rfl, ?_, ?_⟩
  · have hinput : ofSource s.table.target .empty (.table input) = .ok input := rfl
    obtain ⟨texts, htexts, -, -, -, hfaults, -⟩ := splitPairs_first_fault (m := m) rfl hinput hfresh rfl
    obtain rfl := Except.ok.inj htexts
    obtain ⟨fault, hfault, hreport⟩ := hfaults 1 _ hfirst
    exact ⟨fault, _, hfault, hreport, by decide +kernel⟩
  · have hshort : ofSource s.table.target .empty (.table short) = .ok short := rfl
    obtain ⟨texts, htexts, -, -, -, -, hpairs⟩ := splitPairs_first_fault (m := m) rfl hshort (by decide) rfl
    obtain rfl := Except.ok.inj htexts
    obtain ⟨pairs, result, hmap, hresult, hcolumn⟩ := hpairs rfl (List.forall_mem_singleton.2 ⟨_, hone⟩)
    cases pairs with
    | nil => exact absurd hmap (by simp)
    | cons record rest =>
        obtain ⟨hrecord, hrest⟩ := List.cons.inj hmap
        obtain rfl := Except.ok.inj (hone.symm.trans hrecord)
        obtain rfl := List.map_eq_nil_iff.1 hrest.symm
        exact ⟨result, hresult, hcolumn⟩

end Settings

end TextSplit
