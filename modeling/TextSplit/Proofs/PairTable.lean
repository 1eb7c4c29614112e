import TextSplit.Proofs.Entries
import TextSplit.Proofs.TokenTable

/-!
# A column for every key

Pairs can be expanded into columns.  Which columns that will be is not known before all records have been
split, so their names are compared with those that are taken already, and with them a column that only
stands in the table while this is done.

* `Table.pairsFrom_eq_ok_iff` — when all records can be split.
* `Table.mem_keysOf`, `nodup_keysOf` — the keys of all records.
* `Table.mem_clashes`, `expand_eq` — which keys are refused, and what becomes of the others.
* `Table.splitPairs_eq` — the steps together.
* `Table.ReadyForPairs`, `Table.isTaken` — a table that can be processed, and the names that no key may have.
* **`Settings.process_expanded`** — the rows of the expanded table.
-/

namespace TextSplit

namespace Table

variable {t : Table} {m : PairSplitter} {pairs : List Pairs} {texts : List Value}

/-! ## Pairs of all records -/

/-- The pairs are found exactly if every record can be split. -/
lemma pairsFrom_eq_ok_iff {first : Nat} :
    pairsFrom m first texts = .ok pairs ↔ texts.map m.splitValue = pairs.map .ok := by
  induction texts generalizing first pairs with
  | nil => cases pairs <;> simp [pairsFrom]
  | cons text rest ih =>
      rw [pairsFrom, List.map_cons]
      cases hsplit : m.splitValue text with
      | error fault => cases pairs <;> simp
      | ok record =>
          cases pairs with
          | nil => cases pairsFrom m (first + 1) rest <;> simp
          | cons found others =>
              rw [List.map_cons, List.cons.injEq, ← @ih others (first + 1)]
              cases pairsFrom m (first + 1) rest <;> simp

lemma splitValue_eq_ok {text : String} {record : Pairs} (h : (m.split text.toList).toOption = some record) :
    m.splitValue (.text text) = .ok record := by
  have htext := m.splitValue_text text.toList
  rw [String.ofList_toList] at htext
  cases hsplit : m.split text.toList with
  | error fault =>
      rw [hsplit] at h
      exact absurd h (by simp [Except.toOption])
  | ok found =>
      rw [hsplit] at h htext
      rw [htext, Option.some.inj h]

/-- Values that are texts are split as texts. -/
lemma map_splitValue_text {lines : List String}
    (h : lines.map (fun text => (m.split text.toList).toOption) = pairs.map some) :
    (lines.map .text).map m.splitValue = pairs.map .ok := by
  induction lines generalizing pairs with
  | nil => cases pairs <;> simp at h ⊢
  | cons text lines ih =>
      cases pairs with
      | nil => exact absurd h (by simp)
      | cons record pairs =>
          obtain ⟨hrecord, hpairs⟩ := List.cons.inj h
          rw [List.map_cons, List.map_cons, List.map_cons, splitValue_eq_ok hrecord, ih hpairs]

/-! ## Keys -/

/-- The first occurrences in a list are different. -/
lemma nodup_eraseDups {α : Type} [BEq α] [LawfulBEq α] : ∀ items : List α, items.eraseDups.Nodup
  | [] => by simp
  | x :: rest => by
      rw [List.eraseDups_cons, List.nodup_cons]
      exact ⟨by simp [List.mem_eraseDups], nodup_eraseDups (rest.filter fun y => !y == x)⟩
termination_by items => items.length
decreasing_by exact Nat.lt_succ_of_le (List.length_filter_le _ _)

lemma nodup_keysOf (pairs : List Pairs) : (keysOf pairs).Nodup := nodup_eraseDups _

lemma mem_keysOf {key : List Char} : key ∈ keysOf pairs ↔ ∃ record ∈ pairs, ∃ p ∈ record, p.1 = key := by
  simp only [keysOf, List.mem_eraseDups, List.mem_flatMap, List.mem_map]

/-- The names that are refused are those of keys that have a column already. -/
lemma mem_clashes {name : String} :
    name ∈ t.clashes pairs ↔ t.has name = true ∧ ∃ key ∈ keysOf pairs, String.ofList key = name := by
  rw [clashes, List.mem_mergeSort, List.mem_filter, List.mem_map, and_comm]

lemma clashes_eq_nil_iff :
    t.clashes pairs = [] ↔ ∀ key ∈ keysOf pairs, t.has (String.ofList key) = false := by
  simp only [List.eq_nil_iff_forall_not_mem, mem_clashes, not_and, not_exists]
  constructor
  · intro h key hkey
    exact Bool.eq_false_iff.2 fun hhas => h _ hhas key hkey rfl
  · rintro h name hhas key hkey rfl
    exact absurd (h key hkey) (by simp [hhas])

/-! ## The steps together -/

/-- **Expanding** refuses keys that have a column already; otherwise the keys get the last columns, and that of
the pairs goes. -/
lemma expand_eq (hpairs : t.has Defaults.pairsColumn = true) :
    t.expand pairs
      = if ∀ key ∈ keysOf pairs, t.has (String.ofList key) = false then
          .ok ⟨t.index, t.columns.filter (fun c => !c.isNamed Defaults.pairsColumn) ++ keyColumns pairs⟩
        else Fault.refuse (.keysClash ((t.clashes pairs).map .text)) := by
  split_ifs with hfree
  · rw [expand, clashes_eq_nil_iff.2 hfree]
    simp only [drop, hpairs, if_true]
    rfl
  · cases hclashes : t.clashes pairs with
    | nil => exact absurd (clashes_eq_nil_iff.1 hclashes) hfree
    | cons name names => rw [expand, hclashes]

/-- The pairs of every record as a cell. -/
def pairCells (pairs : List Pairs) : List Value := pairs.map fun p => .dict (PairSplitter.entriesOf p)

lemma splitPairs_eq {s : TableSettings} (hcolumn : t.column s.target = .ok texts)
    (hpairs : texts.map m.splitValue = pairs.map .ok) :
    t.splitPairs m s
      = (if s.expandPairs then (t.set Defaults.pairsColumn (pairCells pairs)).expand pairs
          else .ok (t.set Defaults.pairsColumn (pairCells pairs))) >>= finish s := by
  rw [splitPairs, hcolumn]
  show pairsFrom m 0 texts >>= _ = _
  rw [pairsFrom_eq_ok_iff.2 hpairs]
  cases s.expandPairs <;> rfl

/-! ## A table that is ready -/

/-- A table with the numbers of its records, under their name. -/
def withNumbers (t : Table) : Table := t.set Defaults.recordColumn (counted t.size)

lemma load_table {target : String} (htarget : t.has target = true) (f : Folder) :
    load target f (.table t) = .ok t.withNumbers := by
  show withRecords target t = _
  rw [withRecords, if_pos htarget, withNumbers]

lemma column?_eq_some_of_has {name : String} (h : t.has name = true) :
    t.column? name = some ((t.column? name).getD []) := by
  obtain ⟨c, hc, hname⟩ := List.any_eq_true.1 h
  cases hfind : t.columns.find? (·.isNamed name) with
  | none => exact absurd hname (List.find?_eq_none.1 hfind c hc)
  | some d => rw [column?, hfind]; rfl

/-- The names that no key may have: those of the columns, of the numbers, and of the pairs. -/
def isTaken (t : Table) (name : String) : Bool :=
  t.has name || Defaults.recordColumn == name || Defaults.pairsColumn == name

/-- While pairs are expanded, all names that are taken have a column. -/
lemma has_withPairs (cells : List Value) (name : String) :
    (t.withNumbers.set Defaults.pairsColumn cells).has name = t.isTaken name := by
  rw [has_set, withNumbers, has_set, isTaken]

/-- A table that has a column of texts, and neither of the columns that are set for pairs. -/
structure ReadyForPairs (target : String) (t : Table) : Prop where
  rectangular : t.Rectangular
  hasTarget : t.has target = true
  fresh : ∀ name ∈ [Defaults.recordColumn, Defaults.pairsColumn], t.has name = false

/-- The cell of a key in the row of a record: the value that the record gives it, if it gives one. -/
def pairCell (record : Pairs) (key : List Char) : Value :=
  match record.lookup key with
  | some value => .text (String.ofList value)
  | none => .null

/-- The table with its expanded pairs: after the columns that are kept come the numbers and the keys. -/
def expanded (s : TableSettings) (t : Table) (pairs : List Pairs) : Table :=
  ⟨t.index, t.kept s ++ ⟨.text Defaults.recordColumn, counted t.size⟩ :: keyColumns pairs⟩

namespace ReadyForPairs

variable {target : String} (ht : t.ReadyForPairs target)

include ht

lemma ne_target {name : String} (hname : name ∈ [Defaults.recordColumn, Defaults.pairsColumn]) :
    name ≠ target := by
  rintro rfl
  exact absurd (ht.hasTarget.symm.trans (ht.fresh name hname)) (by simp)

lemma column_target : t.withNumbers.column target = .ok ((t.column? target).getD []) := by
  rw [column, withNumbers, column?_set_of_ne (ht.ne_target (by simp)), column?_eq_some_of_has ht.hasTarget]
  rfl

lemma length_texts : ((t.column? target).getD []).length = t.size :=
  ht.rectangular.length_column (column?_eq_some_of_has ht.hasTarget)

/-- The column of the pairs comes last and goes again. -/
lemma filter_withPairs (cells : List Value) :
    (t.withNumbers.set Defaults.pairsColumn cells).columns.filter
        (fun c => !c.isNamed Defaults.pairsColumn)
      = t.columns ++ [⟨.text Defaults.recordColumn, counted t.size⟩] := by
  have hpairs : t.withNumbers.has Defaults.pairsColumn = false := by
    rw [withNumbers, has_set, ht.fresh _ (by simp)]
    rfl
  have hall : t.withNumbers.columns.filter (fun c => !c.isNamed Defaults.pairsColumn)
      = t.withNumbers.columns :=
    List.filter_eq_self.2 fun c hc => by simpa using List.any_eq_false.1 hpairs c hc
  rw [set_of_not_has hpairs, List.filter_append, hall, withNumbers, set_of_not_has (ht.fresh _ (by simp))]
  simp [Column.isNamed]

lemma isNamed_added {pairs : List Pairs}
    (hfree : ∀ key ∈ keysOf pairs, t.isTaken (String.ofList key) = false) :
    ∀ c ∈ ⟨.text Defaults.recordColumn, counted t.size⟩ :: keyColumns pairs, c.isNamed target = false := by
  refine List.forall_mem_cons.2 ⟨?_, fun c hc => ?_⟩
  · simpa [Column.isNamed] using ht.ne_target (by simp)
  · obtain ⟨key, hkey, rfl⟩ := List.mem_map.1 hc
    rw [Column.isNamed, beq_eq_false_iff_ne]
    rintro rfl
    have hclash := hfree key hkey
    rw [isTaken, ht.hasTarget] at hclash
    exact absurd hclash (by simp)

/-- **Expanding a table that is ready** keeps its columns, or refuses the keys that are taken. -/
lemma splitPairs_eq {s : TableSettings} (hs : s.expandPairs = true) (htarget : s.target = target)
    (hpairs : ((t.column? target).getD []).map m.splitValue = pairs.map .ok) :
    t.withNumbers.splitPairs m s
      = if ∀ key ∈ keysOf pairs, t.isTaken (String.ofList key) = false then .ok (t.expanded s pairs)
        else Fault.refuse (.keysClash
          (((t.withNumbers.set Defaults.pairsColumn (pairCells pairs)).clashes pairs).map .text)) := by
  subst htarget
  have hset : (t.withNumbers.set Defaults.pairsColumn (pairCells pairs)).has Defaults.pairsColumn = true := by
    rw [has_withPairs, isTaken]
    simp
  rw [Table.splitPairs_eq ht.column_target hpairs, hs, if_pos rfl, expand_eq hset, ht.filter_withPairs]
  simp only [has_withPairs]
  split_ifs with hfree
  · show finish s ⟨t.index, _⟩ = _
    rw [List.append_assoc, List.singleton_append, finish_append (ht.isNamed_added hfree) ht.hasTarget]
    rfl
  · rfl

/-- A row holds the cells that are kept, the number of the record, and what the record gives each key. -/
lemma rows_expanded (s : TableSettings) (hlength : pairs.length = t.size) :
    (t.expanded s pairs).rows
      = pairs.zipIdx.map fun e =>
        (t.kept s).map (·.cell e.2) ++ .int e.2 :: (keysOf pairs).map (pairCell e.1) := by
  have hsnd : ∀ g : Nat → Value, (List.range' 0 t.size).map g = pairs.zipIdx.map fun e => g e.2 := by
    intro g
    rw [← hlength, ← List.zipIdx_map_snd, List.map_map]
    rfl
  have hkept : t.kept s = (t.kept s).map fun c => ⟨c.name, pairs.zipIdx.map fun e => c.cell e.2⟩ := by
    conv_lhs => rw [← List.map_id (t.kept s)]
    refine List.map_congr_left fun c hc => congrArg (Column.mk c.name) ?_
    rw [Column.cells_eq (ht.rectangular c (List.mem_of_mem_filter hc)), hsnd]
  have hkeys : keyColumns pairs = (keysOf pairs).map fun key =>
      ⟨.text (String.ofList key), pairs.zipIdx.map fun e => pairCell e.1 key⟩ := by
    refine List.map_congr_left fun key _ => congrArg (Column.mk _) ?_
    show pairs.map (pairCell · key) = _
    conv_lhs => rw [← List.zipIdx_map_fst 0 pairs, List.map_map]
    rfl
  rw [rows_of_columns pairs.zipIdx
    ((t.kept s).map (fun c => (c.name, fun e => c.cell e.2))
      ++ (.text Defaults.recordColumn, fun e => .int e.2)
      :: (keysOf pairs).map fun key => (.text (String.ofList key), fun e => pairCell e.1 key))]
  · simp [Function.comp_def]
  · rw [expanded, hkeys, counted_eq, hsnd]
    conv_lhs => rw [hkept]
    simp [Function.comp_def]
  · simp [size, expanded, hlength]

end ReadyForPairs

end Table

namespace Settings

open Table

variable {s : Settings} {t : Table} {m : PairSplitter}

/-- Under a separator, a loaded table is split into pairs. -/
lemma process_pairs (hm : s.pairSplitter? = some m) (htarget : t.has s.table.target = true) (f : Folder) :
    s.process f (.table t) = t.withNumbers.splitPairs m s.table := by
  obtain ⟨separator, hseparator, -⟩ := Option.map_eq_some_iff.1 hm
  rw [process, load_table htarget]
  show s.split t.withNumbers = _
  rw [split, hseparator]
  show s.splitPairs t.withNumbers = _
  rw [splitPairs, hm]

/-- **A column for every key.**  If every record of a table that is ready can be split, processing succeeds
exactly if no key of a record is the name of a column, be it one that is to be dropped, or one of the two that
are set on the way; otherwise the data are refused, and the report lists exactly these keys.  On success the
rows and their names stay.  The columns are those of the table, without that of the texts if it is to be
dropped, the numbers of the records, and the keys in the order in which they first occur.  Every row holds the
cells that its record had, its number, and for each key the value that the record gives it, if any. -/
theorem process_expanded (f : Folder) (hm : s.pairSplitter? = some m) (hexpand : s.table.expandPairs = true)
    (ht : t.ReadyForPairs s.table.target) {pairs : List Pairs}
    (hpairs : ((t.column? s.table.target).getD []).map m.splitValue = pairs.map .ok) :
    ((∃ result, s.process f (.table t) = .ok result)
        ↔ ∀ record ∈ pairs, ∀ p ∈ record, t.isTaken (String.ofList p.1) = false)
      ∧ ((∃ record ∈ pairs, ∃ p ∈ record, t.isTaken (String.ofList p.1) = true) →
          ∃ clashing : List String,
            s.process f (.table t) = Fault.refuse (.keysClash (clashing.map .text))
              ∧ (Cause.keysClash (clashing.map .text)).report.kind = .data
              ∧ ∀ name, name ∈ clashing
                ↔ t.isTaken name = true ∧ ∃ record ∈ pairs, ∃ p ∈ record, String.ofList p.1 = name)
      ∧ ∀ result, s.process f (.table t) = .ok result →
          result.index = t.index
            ∧ result.names = (t.kept s.table).map (·.name)
              ++ .text Defaults.recordColumn :: (keysOf pairs).map (fun key => .text (String.ofList key))
            ∧ result.rows = pairs.zipIdx.map (fun e =>
              (t.kept s.table).map (·.cell e.2) ++ .int e.2 :: (keysOf pairs).map (pairCell e.1))
            ∧ result.has s.table.target = !s.table.dropTarget := by
  have hkeys : (∀ key ∈ keysOf pairs, t.isTaken (String.ofList key) = false)
      ↔ ∀ record ∈ pairs, ∀ p ∈ record, t.isTaken (String.ofList p.1) = false := by
    simp only [mem_keysOf]
    exact ⟨fun h record hrecord p hp => h p.1 ⟨record, hrecord, p, hp, rfl⟩,
      fun h key ⟨record, hrecord, p, hp, hkey⟩ => hkey ▸ h record hrecord p hp⟩
  have hlength : pairs.length = t.size := by
    rw [← ht.length_texts, ← List.length_map (f := m.splitValue), hpairs, List.length_map]
  rw [process_pairs hm ht.hasTarget, ht.splitPairs_eq hexpand rfl hpairs]
  split_ifs with hfree
  · refine ⟨iff_of_true ⟨_, rfl⟩ (hkeys.1 hfree), ?_, ?_⟩
    · rintro ⟨record, hrecord, p, hp, htaken⟩
      exact absurd (hkeys.1 hfree record hrecord p hp) (by simp [htaken])
    · rintro result ⟨⟩
      refine ⟨rfl, ?_, ht.rows_expanded s.table hlength, ?_⟩
      · simp [names, expanded, keyColumns]
      · rw [has, expanded, List.any_append, any_kept s.table ht.hasTarget,
          List.any_eq_false.2 fun c hc => by simp [ht.isNamed_added hfree c hc], Bool.or_false]
  · refine ⟨iff_of_false (by rintro ⟨result, ⟨⟩⟩) fun h => hfree (hkeys.2 h),
      fun _ => ⟨_, rfl, rfl, fun name => ?_⟩, by rintro result ⟨⟩⟩
    rw [mem_clashes, has_withPairs]
    simp only [mem_keysOf]
    refine and_congr_right fun _ => ?_
    constructor
    · rintro ⟨_, ⟨record, hrecord, p, hp, rfl⟩, rfl⟩
      exact ⟨record, hrecord, p, hp, rfl⟩
    · rintro ⟨record, hrecord, p, hp, rfl⟩
      exact ⟨p.1, ⟨record, hrecord, p, hp, rfl⟩, rfl⟩

/-- Two records with different keys, under names that repeat. -/
theorem process_expanded_pages :
    let s : Settings := ⟨Splitter.plain (.char ','), some (Splitter.plain (.char '=')), ⟨"text", true, true⟩,
      ⟨false, "INFO", "delimit_logs", none, "DEBUG"⟩⟩
    let t : Table := ⟨[.int 7, .int 7],
      [⟨.text "text", [.text "a=1,b=2", .text "c=x=y,a=3"]⟩, ⟨.text "page", [.int 1, .null]⟩]⟩
    t.ReadyForPairs s.table.target ∧ ∃ result, s.process .empty (.table t) = .ok result
      ∧ result.names = [.text "page", .text "delimit_record_id", .text "a", .text "b", .text "c"]
      ∧ result.rows = [[.int 1, .int 0, .text "1", .text "2", .null],
        [.null, .int 1, .text "3", .null, .text "x=y"]] := by
  intro s t
  have ht : t.ReadyForPairs s.table.target := by
    refine ⟨?_, rfl, by decide⟩
    simp [t, Rectangular, size]
  let m : PairSplitter := ⟨s.splitter, Splitter.plain (.char '=')⟩
  let pairs : List Pairs := [[(['a'], ['1']), (['b'], ['2'])], [(['c'], ['x', '=', 'y']), (['a'], ['3'])]]
  have hpairs : (["a=1,b=2", "c=x=y,a=3"].map .text).map m.splitValue = pairs.map .ok :=
    map_splitValue_text (by decide +kernel)
  obtain ⟨hiff, -, hresult⟩ := process_expanded (s := s) (m := m) .empty rfl rfl ht hpairs
  obtain ⟨result, hprocess⟩ := hiff.2 (by decide)
  obtain ⟨-, hnames, hrows, -⟩ := hresult result hprocess
  exact ⟨ht, result, hprocess, hnames, hrows⟩

end Settings

end TextSplit
