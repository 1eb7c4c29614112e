import TextSplit.Proofs.PairTable

/-!
# Columns that pass through

Processing sets columns under names of its own, and nobody looks whether the table has a column of such a
name: only keys are compared with the names that are there.  A column of such a name loses its cells.  Every
other column passes through all steps, and what is added is derived from the texts as they were.

The steps are followed by one invariant.

* `Table.Carries` — what a table holds of another one, and of the columns that have been added.
* `Table.Carries.set`, `.withNumbers`, `.withTokens`, `.expand`, `.finish` — how every step keeps it.
* `Settings.written`, `Settings.Derives` — the names that are not looked for, and what is derived from texts.
* **`Settings.process_keeps_columns`** — the columns of the result.
* `Settings.process_loses_pairs` — a column that is lost.
-/

namespace TextSplit

/-- A column with a cell for each of some records. -/
def Column.byRecord (records : List Nat) (c : Column) : Column := ⟨c.name, records.map c.cell⟩

@[simp] lemma Column.isNamed_byRecord (records : List Nat) (c : Column) (name : String) :
    (c.byRecord records).isNamed name = c.isNamed name := rfl

/-- Texts that have been split have these tokens. -/
lemma Splitter.eq_of_mapM_split {splitter : Splitter} {texts : List Value} {tokens : List (List (List Char))}
    (h : texts.mapM splitter.split = .ok tokens) :
    tokens = texts.map fun v => splitter.tokens v.contents := by
  induction texts generalizing tokens with
  | nil => exact (Except.ok.inj h).symm
  | cons v texts ih =>
      rw [List.mapM_cons] at h
      obtain ⟨record, hrecord, h⟩ := bind_eq_ok_iff.1 h
      obtain ⟨others, hothers, h⟩ := bind_eq_ok_iff.1 h
      obtain rfl := Except.ok.inj h
      have hv : record = splitter.tokens v.contents := by
        cases v with
        | null => exact absurd hrecord (by simp [Splitter.split, checkSource, Fault.refuse])
        | _ => exact (Except.ok.inj hrecord).symm
      rw [List.map_cons, ← ih hothers, hv]

namespace Table

variable {t r result : Table} {lost : List String} {records : List Nat} {added : List Column} {name : String}
  {pairs : List Pairs}

/-- The columns whose names are not among the lost ones, with the cells of some records. -/
def carried (lost : List String) (records : List Nat) (t : Table) : List Column :=
  (t.columns.filter fun c => !lost.any c.isNamed).map (Column.byRecord records)

lemma filter_carried : (t.carried lost records).filter (fun c => !c.isNamed name)
    = t.carried (lost ++ [name]) records := by
  simp [carried, List.filter_map, List.filter_filter, Function.comp_def, Bool.and_comm]

lemma filter_carried_of_mem (hname : name ∈ lost) :
    (t.carried lost records).filter (fun c => !c.isNamed name) = t.carried lost records := by
  refine List.filter_eq_self.2 fun d hd => ?_
  obtain ⟨c, hc, rfl⟩ := List.mem_map.1 hd
  have hlost : lost.any c.isNamed = false := by simpa using (List.mem_filter.1 hc).2
  simpa using List.any_eq_false.1 hlost name hname

/-- **What a table holds of another one**: its rows stand for records, its columns are distinct, and they are
those that are carried over and those that have been added. -/
structure Carries (lost : List String) (records : List Nat) (t : Table) (added : List Column) (r : Table) :
    Prop where
  size : r.size = records.length
  distinct : r.names.Nodup
  mem_columns : ∀ d, d ∈ r.columns ↔ d ∈ t.carried lost records ++ added

/-- Keys that are free do not bring a name a second time. -/
lemma nodup_names_expanded {index : List Value} (hr : r.names.Nodup)
    (hfree : ∀ key ∈ keysOf pairs, r.has (String.ofList key) = false) :
    (names ⟨index,
      r.columns.filter (fun c => !c.isNamed Defaults.pairsColumn) ++ keyColumns pairs⟩).Nodup := by
  rw [names, List.map_append, keyColumns, List.map_map]
  refine (hr.sublist (List.filter_sublist.map _)).append
    ((nodup_keysOf pairs).map fun a b hab => String.ofList_injective (Value.text.inj hab)) ?_
  intro v hv hkey
  obtain ⟨c, hc, rfl⟩ := List.mem_map.1 hv
  obtain ⟨key, hkey, hname⟩ := List.mem_map.1 hkey
  have hhas : r.has (String.ofList key) = true :=
    has_iff.2 (List.mem_map.2 ⟨c, List.mem_of_mem_filter hc, hname.symm⟩)
  exact absurd (hfree key hkey) (by simp [hhas])

lemma finish_eq_ok {s : TableSettings} (h : finish s r = .ok result) : result = ⟨r.index, r.kept s⟩ := by
  rw [finish] at h
  cases hdrop : s.dropTarget with
  | false =>
      rw [hdrop] at h
      simpa [kept, hdrop] using (Except.ok.inj h).symm
  | true =>
      rw [hdrop, if_pos rfl, drop] at h
      split_ifs at h
      · simpa [kept, hdrop] using (Except.ok.inj h).symm
      · exact absurd h (by simp [Fault.fail])

namespace Carries

/-- A table holds all of itself. -/
lemma refl (ht : t.Rectangular) (hnames : t.names.Nodup) :
    Carries [] (List.range' 0 t.size) t [] t where
  size := by simp
  distinct := hnames
  mem_columns d := by
    have hself : t.carried [] (List.range' 0 t.size) = t.columns := by
      have hall : t.columns.filter (fun c => !([] : List String).any c.isNamed) = t.columns :=
        List.filter_eq_self.2 fun _ _ => rfl
      rw [carried, hall]
      conv_rhs => rw [← List.map_id t.columns]
      exact List.map_congr_left fun c hc => congrArg (Column.mk c.name) (Column.cells_eq (ht c hc)).symm
    rw [hself, List.append_nil]

/-- Setting a column loses the one of its name. -/
lemma set (h : Carries lost records t added r) (name : String) (cells : List Value)
    (hadded : ∀ c ∈ added, c.isNamed name = false) :
    Carries (lost ++ [name]) records t (added ++ [⟨.text name, cells⟩]) (r.set name cells) where
  size := h.size
  distinct := nodup_names_set h.distinct
  mem_columns d := by
    have hkept : added.filter (fun c => !c.isNamed name) = added :=
      List.filter_eq_self.2 fun c hc => by simp [hadded c hc]
    rw [mem_set_iff h.distinct, h.mem_columns, ← filter_carried, ← List.append_assoc]
    conv_rhs => rw [← hkept]
    simp [← List.filter_append]

lemma withNumbers (ht : t.Rectangular) (hnames : t.names.Nodup) :
    Carries [Defaults.recordColumn] (List.range' 0 t.size) t
      [⟨.text Defaults.recordColumn, counted t.size⟩] t.withNumbers :=
  (refl ht hnames).set _ _ (by simp)

/-- Repeated rows stand for the records of the tokens. -/
lemma repeated {tokens : List (List (List Char))}
    (h : Carries lost (List.range' 0 tokens.length) t added r) :
    Carries lost ((numbered 0 tokens).map Prod.fst) t
      (added.map (Column.mapCells (repeatEach (tokens.map List.length))))
      ⟨counted tokens.flatten.length, (r.repeated (tokens.map List.length)).columns⟩ where
  size := by rw [Table.size, length_counted, List.length_map, length_numbered]
  distinct := by
    rw [names, Table.repeated, List.map_map]
    exact h.distinct
  mem_columns d := by
    have hcarried : t.carried lost ((numbered 0 tokens).map Prod.fst)
        = (t.carried lost (List.range' 0 tokens.length)).map
          (Column.mapCells (repeatEach (tokens.map List.length))) := by
      rw [carried, carried, List.map_map]
      refine List.map_congr_left fun c _ => congrArg (Column.mk c.name) ?_
      rw [List.map_map, Column.byRecord, repeatEach_numbered]
      rfl
    rw [hcarried, ← List.map_append, List.mem_map]
    simp only [← h.mem_columns]
    exact List.mem_map

/-- **A row for every token** with the number of its record, the token and its own number. -/
lemma withTokens {tokens : List (List (List Char))}
    (h : Carries [Defaults.recordColumn] (List.range' 0 tokens.length) t
      [⟨.text Defaults.recordColumn, counted tokens.length⟩] r)
    (hresult : r.withTokens tokens = .ok result) :
    Carries addedNames ((numbered 0 tokens).map Prod.fst) t (addedColumns tokens) result := by
  rw [withTokens_eq_set (by rw [h.size, List.length_range'])] at hresult
  have htokens := h.repeated.set Defaults.tokenColumn (tokenCells tokens.flatten)
    (by simp [Column.mapCells, Column.isNamed, Defaults.tokenColumn, Defaults.recordColumn])
  have hset := htokens.set Defaults.tokenCountColumn (counted tokens.flatten.length)
    (by simp [Column.mapCells, Column.isNamed, Defaults.tokenColumn, Defaults.recordColumn,
      Defaults.tokenCountColumn])
  rw [Except.ok.inj hresult] at hset
  rw [addedColumns, ← repeatEach_counted, ← tokenCells_flatten, length_numbered]
  exact hset

/-- Expanding loses the column of the pairs and adds those of the keys. -/
lemma expand (h : Carries lost records t added r) (hname : Defaults.pairsColumn ∈ lost)
    (hhas : r.has Defaults.pairsColumn = true) (hresult : r.expand pairs = .ok result) :
    Carries lost records t (added.filter (fun c => !c.isNamed Defaults.pairsColumn) ++ keyColumns pairs)
      result := by
  rw [expand_eq hhas] at hresult
  split_ifs at hresult with hfree
  · obtain rfl := Except.ok.inj hresult
    refine ⟨h.size, nodup_names_expanded h.distinct hfree, fun d => ?_⟩
    rw [← List.append_assoc, ← filter_carried_of_mem hname, ← List.filter_append, List.mem_append,
      List.mem_append, List.mem_filter, List.mem_filter, h.mem_columns]
  · exact absurd hresult (by simp [Fault.refuse])

/-- The column of the texts may be lost in the end. -/
lemma finish {s : TableSettings} (h : Carries lost records t added r) (hresult : finish s r = .ok result) :
    Carries (lost ++ if s.dropTarget then [s.target] else []) records t
      (added.filter fun c => !(s.dropTarget && c.isNamed s.target)) result := by
  obtain rfl := finish_eq_ok hresult
  refine ⟨h.size, h.distinct.sublist (List.filter_sublist.map _), fun d => ?_⟩
  rw [kept, List.mem_filter, h.mem_columns]
  cases hdrop : s.dropTarget with
  | false => simp
  | true =>
      simp only [if_true, ← filter_carried, Bool.true_and, ← List.filter_append, List.mem_filter]

end Carries

end Table

namespace Settings

open Table

variable {s : Settings} {t result : Table} {m : PairSplitter}

/-- The names that are set without a look at the table. -/
def written (s : Settings) : List String :=
  match s.pairSplitter? with
  | none => addedNames
  | some _ => [Defaults.recordColumn, Defaults.pairsColumn]

/-- What is derived from the texts of a table: the records that the rows of a result stand for, and the
columns that it has besides those of the table. -/
inductive Derives (s : Settings) (t : Table) : List Nat → List Column → Prop
  | tokens (hm : s.pairSplitter? = none) :
      Derives s t ((numbered 0 (t.tokensOf s.splitter s.table.target)).map Prod.fst)
        (addedColumns (t.tokensOf s.splitter s.table.target))
  | pairs {m : PairSplitter} {pairs : List Pairs} (hm : s.pairSplitter? = some m)
      (hexpand : s.table.expandPairs = false)
      (hpairs : ((t.column? s.table.target).getD []).map m.splitValue = pairs.map .ok) :
      Derives s t (List.range' 0 t.size)
        [⟨.text Defaults.recordColumn, counted t.size⟩, ⟨.text Defaults.pairsColumn, pairCells pairs⟩]
  | keys {m : PairSplitter} {pairs : List Pairs} (hm : s.pairSplitter? = some m)
      (hexpand : s.table.expandPairs = true)
      (hpairs : ((t.column? s.table.target).getD []).map m.splitValue = pairs.map .ok) :
      Derives s t (List.range' 0 t.size)
        (⟨.text Defaults.recordColumn, counted t.size⟩ :: keyColumns pairs)

/-- A table that has been processed has been loaded. -/
lemma process_ok {f : Folder} (h : s.process f (.table t) = .ok result) :
    t.has s.table.target = true ∧ s.split t.withNumbers = .ok result := by
  obtain ⟨r, hload, hsplit⟩ := bind_eq_ok_iff.1 h
  change withRecords s.table.target t = .ok r at hload
  rw [withRecords] at hload
  split_ifs at hload with hhas
  · obtain rfl := Except.ok.inj hload
    exact ⟨hhas, hsplit⟩
  · exact absurd hload (by simp [Fault.refuse])

/-- Without a separator, all tokens of the texts have been put into the table. -/
lemma process_tokens_ok {f : Folder} (hm : s.pairSplitter? = none)
    (h : s.process f (.table t) = .ok result) :
    ∃ r, t.withNumbers.withTokens (t.withNumbers.tokensOf s.splitter s.table.target) = .ok r
      ∧ finish s.table r = .ok result := by
  obtain ⟨hhas, h⟩ := process_ok h
  rw [split, Option.map_eq_none_iff.1 hm] at h
  obtain ⟨texts, htexts, h⟩ := bind_eq_ok_iff.1 h
  obtain ⟨tokens, htokens, h⟩ := bind_eq_ok_iff.1 h
  obtain ⟨r, hr, hfinish⟩ := bind_eq_ok_iff.1 h
  rw [tokensOf, column_eq_ok_iff.1 htexts, Option.getD_some, ← Splitter.eq_of_mapM_split htokens]
  exact ⟨r, hr, hfinish⟩

/-- With one, the pairs of the texts have. -/
lemma process_pairs_ok {f : Folder} (hm : s.pairSplitter? = some m)
    (h : s.process f (.table t) = .ok result) :
    ∃ pairs, ((t.withNumbers.column? s.table.target).getD []).map m.splitValue = pairs.map .ok
      ∧ ((if s.table.expandPairs then (t.withNumbers.set Defaults.pairsColumn (pairCells pairs)).expand pairs
          else .ok (t.withNumbers.set Defaults.pairsColumn (pairCells pairs))) >>= finish s.table)
        = .ok result := by
  rw [process_pairs hm (process_ok h).1] at h
  have hsplit := h
  obtain ⟨texts, htexts, h⟩ := bind_eq_ok_iff.1 h
  obtain ⟨pairs, hpairs, -⟩ := bind_eq_ok_iff.1 h
  have hvalues := pairsFrom_eq_ok_iff.1 hpairs
  rw [Table.splitPairs_eq htexts hvalues] at hsplit
  rw [column_eq_ok_iff.1 htexts, Option.getD_some]
  exact ⟨pairs, hvalues, hsplit⟩

/-- Setting the numbers of the records changes no texts, unless it sets just these. -/
lemma derives_of_withNumbers {records : List Nat} {added : List Column}
    (htarget : s.table.target ≠ Defaults.recordColumn) (h : s.Derives t.withNumbers records added) :
    s.Derives t records added := by
  have htexts : t.withNumbers.column? s.table.target = t.column? s.table.target :=
    column?_set_of_ne htarget.symm
  cases h with
  | tokens hm =>
      rw [tokensOf, htexts]
      exact .tokens hm
  | pairs hm hexpand hpairs => exact .pairs hm hexpand (htexts ▸ hpairs)
  | keys hm hexpand hpairs => exact .keys hm hexpand (htexts ▸ hpairs)

/-- **Columns pass through.**  If a table with distinct columns is processed, the rows of the result stand for
records, and its columns are distinct.  They are the columns of the table, with the cells that the records
have there, except the one that is to be dropped, and any one whose name is set on the way; and besides them
the tokens or the pairs, with the numbers of the records, except one of them that is to be dropped.  These are
derived from the texts as they were, unless the texts stand in the very column that counts records. -/
theorem process_keeps_columns {f : Folder} (ht : t.Rectangular) (hnames : t.names.Nodup)
    (h : s.process f (.table t) = .ok result) :
    ∃ records added, s.Derives t.withNumbers records added
      ∧ (s.table.target ≠ Defaults.recordColumn → s.Derives t records added)
      ∧ Carries (s.written ++ if s.table.dropTarget then [s.table.target] else []) records t
        (added.filter fun c => !(s.table.dropTarget && c.isNamed s.table.target)) result := by
  suffices hcarries : ∃ records added, s.Derives t.withNumbers records added
      ∧ ∃ r, Carries s.written records t added r ∧ finish s.table r = .ok result by
    obtain ⟨records, added, hderives, r, hr, hfinish⟩ := hcarries
    exact ⟨records, added, hderives, fun htarget => derives_of_withNumbers htarget hderives,
      hr.finish hfinish⟩
  have hloaded := Carries.withNumbers ht hnames
  cases hm : s.pairSplitter? with
  | none =>
      have hwritten : s.written = addedNames := by rw [written, hm]
      obtain ⟨r, hr, hfinish⟩ := process_tokens_ok hm h
      have hhas : t.withNumbers.has s.table.target = true := by
        rw [withNumbers, has_set, (process_ok h).1, Bool.true_or]
      have hlength : (t.withNumbers.tokensOf s.splitter s.table.target).length = t.size := by
        rw [tokensOf, List.length_map]
        exact (ht.set (length_counted t.size)).length_column (column?_eq_some_of_has hhas)
      rw [← hlength] at hloaded
      exact ⟨_, _, .tokens hm, r, hwritten ▸ hloaded.withTokens hr, hfinish⟩
  | some m =>
      have hwritten : s.written = [Defaults.recordColumn, Defaults.pairsColumn] := by rw [written, hm]
      obtain ⟨pairs, hpairs, hresult⟩ := process_pairs_ok hm h
      have hset := hloaded.set Defaults.pairsColumn (pairCells pairs) (List.forall_mem_singleton.2 rfl)
      cases hexpand : s.table.expandPairs with
      | false =>
          rw [hexpand] at hresult
          exact ⟨_, _, .pairs hm hexpand hpairs, _, hwritten ▸ hset, hresult⟩
      | true =>
          rw [hexpand] at hresult
          obtain ⟨r, hr, hfinish⟩ := bind_eq_ok_iff.1 hresult
          have hhas : (t.withNumbers.set Defaults.pairsColumn (pairCells pairs)).has Defaults.pairsColumn
              = true := by rw [has_set, beq_self_eq_true, Bool.or_true]
          exact ⟨_, _, .keys hm hexpand hpairs, r, hwritten ▸ hset.expand (by simp) hhas hr, hfinish⟩

/-- A column of the table passes through beside one that is overwritten. -/
theorem process_keeps_columns_page :
    let s : Settings := ⟨Splitter.plain (.char ','), some (Splitter.plain (.char '=')), ⟨"text", true, false⟩,
      ⟨false, "INFO", "delimit_logs", none, "DEBUG"⟩⟩
    let t : Table := ⟨[.int 7, .int 7], [⟨.text "page", [.int 1, .null]⟩,
      ⟨.text "delimit_record_id", [.text "x", .text "y"]⟩,
      ⟨.text "text", [.text "a=1", .text "b=2,c=3"]⟩]⟩
    t.Rectangular ∧ t.names.Nodup ∧ ∃ result, s.process .empty (.table t) = .ok result
      ∧ ⟨.text "page", [.int 1, .null]⟩ ∈ result.columns
      ∧ ⟨.text "delimit_record_id", [.int 0, .int 1]⟩ ∈ result.columns := by
  intro s t
  have ht : t.Rectangular := by simp [t, Rectangular, size]
  have hnames : t.names.Nodup := by simp [t, names]
  let m : PairSplitter := ⟨s.splitter, Splitter.plain (.char '=')⟩
  let pairs : List Pairs := [[(['a'], ['1'])], [(['b'], ['2']), (['c'], ['3'])]]
  have hpairs : (["a=1", "b=2,c=3"].map .text).map m.splitValue = pairs.map .ok :=
    map_splitValue_text (by decide +kernel)
  have hprocess : ∃ result, s.process .empty (.table t) = .ok result :=
    ⟨_, (process_pairs (m := m) rfl rfl .empty).trans (Table.splitPairs_eq (s := s.table) rfl hpairs)⟩
  obtain ⟨result, hresult⟩ := hprocess
  obtain ⟨records, added, hderives, -, hcarries⟩ := process_keeps_columns ht hnames hresult
  cases hderives with
  | tokens hm => exact absurd hm (by simp [s, pairSplitter?])
  | keys _ hexpand => exact absurd hexpand (by decide)
  | pairs =>
      exact ⟨ht, hnames, result, hresult, (hcarries.mem_columns _).2 (List.mem_cons_self),
        (hcarries.mem_columns _).2 (List.mem_append_right _ (List.mem_filter.2 ⟨List.mem_cons_self, rfl⟩))⟩

/-- **A column that is lost**: one with the name of the pairs, though these are expanded and do not come to
stand in it. -/
theorem process_loses_pairs :
    let s : Settings := ⟨Splitter.plain (.char ','), some (Splitter.plain (.char '=')), ⟨"text", false, true⟩,
      ⟨false, "INFO", "delimit_logs", none, "DEBUG"⟩⟩
    let t : Table := ⟨[.int 0], [⟨.text "text", [.text "a=1"]⟩, ⟨.text "delimit_pairs", [.text "mine"]⟩]⟩
    t.Rectangular ∧ t.names.Nodup ∧ t.has "delimit_pairs" = true
      ∧ ∃ result, s.process .empty (.table t) = .ok result ∧ result.has "delimit_pairs" = false := by
  intro s t
  let m : PairSplitter := ⟨s.splitter, Splitter.plain (.char '=')⟩
  let pairs : List Pairs := [[(['a'], ['1'])]]
  have hpairs : (["a=1"].map .text).map m.splitValue = pairs.map .ok :=
    map_splitValue_text (by decide +kernel)
  refine ⟨by simp [t, Rectangular, size], by simp [t, names], rfl, ?_⟩
  have hhas : (t.withNumbers.set Defaults.pairsColumn (pairCells pairs)).has Defaults.pairsColumn = true := by
    decide
  have hfree : ∀ key ∈ keysOf pairs, (t.withNumbers.set Defaults.pairsColumn (pairCells pairs)).has
      (String.ofList key) = false := by decide
  rw [process_pairs (m := m) rfl rfl, Table.splitPairs_eq (s := s.table) rfl hpairs, if_pos rfl,
    expand_eq hhas, if_pos hfree]
  exact ⟨_, rfl, by decide⟩

end Settings

end TextSplit
