import Mathlib.Data.List.Basic
import Mathlib.Tactic.Lemma
import Mathlib.Tactic.SplitIfs
import TextSplit.Proofs.TableColumns
import TextSplit.Proofs.WrittenForm
import TextSplit.Table.Processing

/-!
# One row for every token

Tokens are put into a table in several steps: as a list in the cell of their record, then records without
tokens are left out, then every list is taken apart, and then rows are counted.  Seen from the result, the
steps are one: every column is repeated for the tokens of its records.

* `Table.numbered` — all tokens in order, each with the number of its record.
* `repeatEach_numbered` — repeating cells is reading them by the numbers of the records.
* `Table.withTokens_eq_set`, `withTokens_eq` — the steps together.
* `Table.rows_of_columns` — rows, when all columns are read off one list.
* `Table.Ready` — a table that can be processed.
* **`Settings.process_tokens`** — the rows of the processed table.
-/

namespace TextSplit

/-- No text is missing, so every text is split. -/
lemma Splitter.mapM_split (splitter : Splitter) {texts : List Value} (h : ∀ v ∈ texts, v ≠ .null) :
    texts.mapM splitter.split = .ok (texts.map fun v => splitter.tokens v.contents) := by
  induction texts with
  | nil => rfl
  | cons v texts ih =>
      obtain ⟨hv, htexts⟩ := List.forall_mem_cons.1 h
      have hsplit : splitter.split v = .ok (splitter.tokens v.contents) := by
        cases v with
        | null => exact absurd rfl hv
        | _ => rfl
      rw [List.mapM_cons, hsplit, ih htexts]
      rfl

namespace Table

variable {t : Table} {name : String} {cells : List Value}

/-- Cells may change, as long as names do not. -/
lemma any_isNamed_map (name : String) {f : Column → Column} (hf : ∀ c, (f c).name = c.name)
    (columns : List Column) :
    (columns.map f).any (·.isNamed name) = columns.any (·.isNamed name) := by
  rw [List.any_map]
  congr 1
  funext c
  rw [Function.comp_apply, Column.isNamed, Column.isNamed, hf]

/-! ## Tokens with the numbers of their records -/

/-- The tokens of records from a number on, each with the number of its record. -/
def numbered (first : Nat) (tokens : List (List (List Char))) : List (Nat × List Char) :=
  (tokens.zipIdx first).flatMap fun (record, n) => record.map fun token => (n, token)

variable {first : Nat} {record : List (List Char)} {tokens : List (List (List Char))}

lemma numbered_cons : numbered first (record :: tokens)
    = record.map (fun token => (first, token)) ++ numbered (first + 1) tokens := by
  rw [numbered, List.zipIdx_cons, List.flatMap_cons]
  rfl

lemma map_snd_numbered (first : Nat) (tokens : List (List (List Char))) :
    (numbered first tokens).map Prod.snd = tokens.flatten := by
  induction tokens generalizing first with
  | nil => rfl
  | cons record tokens ih =>
      rw [numbered_cons, List.map_append, ih, List.map_map, List.flatten_cons]
      simp [Function.comp_def]

lemma repeatEach_cons {α : Type} (n : Nat) (times : List Nat) (x : α) (xs : List α) :
    repeatEach (n :: times) (x :: xs) = List.replicate n x ++ repeatEach times xs := rfl

/-- **Repeating cells is reading them by the numbers of the records.** -/
lemma repeatEach_numbered {α : Type} (g : Nat → α) (first : Nat) (tokens : List (List (List Char))) :
    repeatEach (tokens.map List.length) ((List.range' first tokens.length).map g)
      = (numbered first tokens).map fun e => g e.1 := by
  induction tokens generalizing first with
  | nil => rfl
  | cons record tokens ih =>
      rw [List.length_cons, List.range'_succ, List.map_cons, List.map_cons, repeatEach_cons, ih,
        numbered_cons, List.map_append, List.map_map]
      congr 1
      exact List.map_const.symm

lemma le_of_mem_numbered {e : Nat × List Char} (h : e ∈ numbered first tokens) : first ≤ e.1 := by
  obtain ⟨⟨record, n⟩, hrecord, he⟩ := List.mem_flatMap.1 h
  obtain ⟨token, -, rfl⟩ := List.mem_map.1 he
  exact List.le_snd_of_mem_zipIdx hrecord

/-- The tokens with the number of a record are those of the record. -/
lemma filter_numbered (first n : Nat) (tokens : List (List (List Char))) :
    ((numbered first tokens).filter (·.1 == first + n)).map Prod.snd = tokens[n]?.getD [] := by
  induction tokens generalizing first n with
  | nil => rfl
  | cons record tokens ih =>
      rw [numbered_cons, List.filter_append, List.map_append]
      cases n with
      | zero =>
          -- later records have greater numbers
          have hothers : (numbered (first + 1) tokens).filter (·.1 == first + 0) = [] := by
            refine List.filter_eq_nil_iff.2 fun e he => ?_
            have hle := le_of_mem_numbered he
            simp only [beq_iff_eq]
            omega
          have hkept : (record.map fun token => (first, token)).filter (·.1 == first + 0)
              = record.map fun token => (first, token) := by
            simp [List.filter_eq_self]
          rw [hothers, hkept]
          simp [Function.comp_def]
      | succ n =>
          have hfirst : (record.map fun token => (first, token)).filter (·.1 == first + (n + 1)) = [] := by
            simp
          have hshift : first + (n + 1) = first + 1 + n := by omega
          rw [hfirst, hshift, ih]
          rfl

/-! ## The steps together -/

/-- The lists that stand in the cells of the records. -/
def listCells (tokens : List (List (List Char))) : List Value :=
  tokens.map fun record => .list (tokenCells record)

/-- Which records have tokens. -/
def marksOf (tokens : List (List (List Char))) : List Bool := (listCells tokens).map hasItems

lemma marked_nil_cons {α : Type} (tokens : List (List (List Char))) (x : α) (xs : List α) :
    marked (marksOf ([] :: tokens)) (x :: xs) = marked (marksOf tokens) xs := rfl

lemma marked_cons_cons {α : Type} (token : List Char) (record : List (List Char))
    (tokens : List (List (List Char))) (x : α) (xs : List α) :
    marked (marksOf ((token :: record) :: tokens)) (x :: xs) = x :: marked (marksOf tokens) xs := rfl

/-- **Leaving out records without tokens** and repeating the others is repeating all of them, because no
record is repeated that is left out. -/
lemma repeatEach_marked {α : Type} (tokens : List (List (List Char))) (xs : List α) :
    repeatEach (((marked (marksOf tokens) (listCells tokens)).map partsOf).map List.length)
        (marked (marksOf tokens) xs)
      = repeatEach (tokens.map List.length) xs := by
  induction tokens generalizing xs with
  | nil => rfl
  | cons record tokens ih =>
      cases xs with
      | nil => simp [repeatEach, marked]
      | cons x xs =>
          -- a record without tokens is left out on one side and repeated no times on the other
          cases record with
          | nil =>
              rw [listCells, List.map_cons, marked_nil_cons, marked_nil_cons]
              exact ih xs
          | cons token record =>
              rw [listCells, List.map_cons, marked_cons_cons, marked_cons_cons, List.map_cons, List.map_cons,
                List.map_cons, repeatEach_cons, repeatEach_cons]
              have hlength : (partsOf (.list (tokenCells (token :: record)))).length
                  = (token :: record).length := List.length_map _
              rw [hlength]
              exact congrArg _ (ih xs)

lemma flatten_marked (tokens : List (List (List Char))) :
    ((marked (marksOf tokens) (listCells tokens)).map partsOf).flatten = tokenCells tokens.flatten := by
  induction tokens with
  | nil => rfl
  | cons record tokens ih =>
      cases record with
      | nil => exact ih
      | cons token record =>
          have happend : tokenCells (((token :: record) :: tokens).flatten)
              = tokenCells (token :: record) ++ tokenCells tokens.flatten := List.map_append
          rw [listCells, List.map_cons, marked_cons_cons, List.map_cons, List.flatten_cons, happend]
          exact congrArg _ ih

lemma length_repeatEach {α : Type} (tokens : List (List (List Char))) {xs : List α}
    (h : xs.length = tokens.length) :
    (repeatEach (tokens.map List.length) xs).length = tokens.flatten.length := by
  induction tokens generalizing xs with
  | nil => rfl
  | cons record tokens ih =>
      cases xs with
      | nil => exact absurd h (by simp)
      | cons x xs =>
          have hrest := ih (Nat.succ.inj h)
          rw [List.map_cons, repeatEach_cons, List.length_append, List.length_replicate, hrest,
            List.flatten_cons, List.length_append]

/-- Records without tokens may be left out before the others are repeated. -/
lemma repeated_select (t : Table) (tokens : List (List (List Char))) :
    (t.select (marksOf tokens)).repeated
        (((marked (marksOf tokens) (listCells tokens)).map partsOf).map List.length)
      = t.repeated (tokens.map List.length) := by
  rw [select, repeated, repeated, repeatEach_marked, List.map_map]
  congr 1
  exact List.map_congr_left fun c _ => congrArg (Column.mk c.name) (repeatEach_marked tokens c.cells)

@[simp] lemma length_counted (n : Nat) : (counted n).length = n := by
  simp [counted]

/-- **The steps together**: every column is repeated for the tokens of its records, and two columns are
set. -/
theorem withTokens_eq_set (hsize : t.size = tokens.length) :
    t.withTokens tokens = .ok (((⟨counted tokens.flatten.length,
      (t.repeated (tokens.map List.length)).columns⟩ : Table).set Defaults.tokenColumn
        (tokenCells tokens.flatten)).set Defaults.tokenCountColumn (counted tokens.flatten.length)) := by
  rw [withTokens]
  dsimp only
  rw [column, column?_set]
  show (select _ (marksOf tokens)).explode _ >>= _ = _
  rw [← listCells, select_set, explode_set, repeated_select, flatten_marked]
  show Except.ok ((renumbered _).set _ (counted (renumbered _).size)) = _
  simp only [renumbered, set, repeated, size, length_counted, length_repeatEach tokens hsize]

/-- Columns that are new come last. -/
theorem withTokens_eq (htoken : t.has Defaults.tokenColumn = false)
    (hcount : t.has Defaults.tokenCountColumn = false) (hsize : t.size = tokens.length) :
    t.withTokens tokens = .ok ⟨counted tokens.flatten.length,
      (t.columns.map fun c => ⟨c.name, repeatEach (tokens.map List.length) c.cells⟩)
        ++ [⟨.text Defaults.tokenColumn, tokenCells tokens.flatten⟩,
          ⟨.text Defaults.tokenCountColumn, counted tokens.flatten.length⟩]⟩ := by
  have hrepeated : ∀ name, t.has name = false →
      has ⟨counted tokens.flatten.length, (t.repeated (tokens.map List.length)).columns⟩ name = false :=
    fun name hname => (any_isNamed_map name
      (f := Column.mapCells (repeatEach (tokens.map List.length))) (fun _ => rfl) t.columns).trans hname
  rw [withTokens_eq_set hsize, set_of_not_has (by rw [has_set, hrepeated _ hcount]; rfl),
    set_of_not_has (hrepeated _ htoken)]
  simp only [repeated, List.append_assoc]
  rfl

/-! ## Rows -/

/-- **Rows, when all columns are read off one list.** -/
lemma rows_of_columns {α : Type} (items : List α) (fields : List (Value × (α → Value)))
    (hcolumns : t.columns = fields.map fun e => ⟨e.1, items.map e.2⟩) (hsize : t.size = items.length) :
    t.rows = items.map fun x => fields.map fun e => e.2 x := by
  refine List.ext_getElem (by simp [rows, hsize]) fun k hk hk' => ?_
  have hitem : k < items.length := by simpa using hk'
  simp [rows, row, hcolumns, Column.cell, hitem, Function.comp_def]

/-- The columns that are neither added nor left out. -/
def kept (s : TableSettings) (t : Table) : List Column :=
  t.columns.filter fun c => !(s.dropTarget && c.isNamed s.target)

variable {s : TableSettings} {index : List Value} {columns added : List Column}

lemma finish_append (hadded : ∀ c ∈ added, c.isNamed s.target = false)
    (htarget : columns.any (·.isNamed s.target) = true) :
    finish s ⟨index, columns ++ added⟩ = .ok ⟨index, kept s ⟨index, columns⟩ ++ added⟩ := by
  unfold finish kept
  cases hdrop : s.dropTarget with
  | false => simp
  | true =>
      have hhas : has ⟨index, columns ++ added⟩ s.target = true := by
        rw [has, List.any_append, htarget]
        rfl
      have hall : added.filter (fun c => !c.isNamed s.target) = added :=
        List.filter_eq_self.2 fun c hc => by simp [hadded c hc]
      simp [drop, hhas, List.filter_append, hall]

/-! ## Processing -/

/-- The names of the columns that are added for tokens. -/
def addedNames : List String :=
  [Defaults.recordColumn, Defaults.tokenColumn, Defaults.tokenCountColumn]

/-- A table that has a column of texts, none of which is missing, and none of the columns that are added. -/
structure Ready (target : String) (t : Table) : Prop where
  rectangular : ∀ c ∈ t.columns, c.cells.length = t.size
  hasTarget : t.has target = true
  fresh : ∀ name ∈ addedNames, t.has name = false
  noNull : ∀ v ∈ (t.column? target).getD [], v ≠ .null

/-- The tokens of every record. -/
def tokensOf (splitter : Splitter) (target : String) (t : Table) : List (List (List Char)) :=
  ((t.column? target).getD []).map fun v => splitter.tokens v.contents

/-- A column with a cell for every token: that of its record. -/
def along (tokens : List (List (List Char))) (c : Column) : Column :=
  ⟨c.name, (numbered 0 tokens).map fun e => c.cell e.1⟩

/-- The columns that are added for tokens. -/
def addedColumns (tokens : List (List (List Char))) : List Column :=
  [⟨.text Defaults.recordColumn, (numbered 0 tokens).map fun e => .int e.1⟩,
    ⟨.text Defaults.tokenColumn, (numbered 0 tokens).map fun e => .text (String.ofList e.2)⟩,
    ⟨.text Defaults.tokenCountColumn, counted (numbered 0 tokens).length⟩]

/-- A table with the numbers of its records at the end. -/
def loaded (t : Table) : Table :=
  ⟨t.index, t.columns ++ [⟨.text Defaults.recordColumn, counted t.size⟩]⟩

lemma counted_eq (n : Nat) : counted n = (List.range' 0 n).map fun (k : Nat) => .int k := by
  rw [counted, List.range_eq_range']

lemma length_numbered (first : Nat) (tokens : List (List (List Char))) :
    (numbered first tokens).length = tokens.flatten.length := by
  rw [← map_snd_numbered first tokens, List.length_map]

lemma repeatEach_counted (tokens : List (List (List Char))) :
    repeatEach (tokens.map List.length) (counted tokens.length)
      = (numbered 0 tokens).map fun e => .int e.1 := by
  rw [counted_eq, repeatEach_numbered]

lemma tokenCells_flatten (tokens : List (List (List Char))) :
    tokenCells tokens.flatten = (numbered 0 tokens).map fun e => .text (String.ofList e.2) := by
  rw [← map_snd_numbered 0 tokens, tokenCells, List.map_map]
  rfl

namespace Ready

variable {target : String} (ht : t.Ready target)

include ht

lemma load_eq (f : Folder) : load target f (.table t) = .ok t.loaded := by
  show withRecords target t = _
  rw [withRecords, if_pos ht.hasTarget, set_of_not_has (ht.fresh _ (by decide)), loaded]

lemma exists_texts : ∃ texts, t.column? target = some texts ∧ texts.length = t.size
    ∧ t.loaded.column target = .ok texts := by
  obtain ⟨c, hc, hname⟩ := List.any_eq_true.1 ht.hasTarget
  cases hfind : t.columns.find? (·.isNamed target) with
  | none => exact absurd hname (List.find?_eq_none.1 hfind c hc)
  | some d =>
      refine ⟨d.cells, by rw [column?, hfind]; rfl, ht.rectangular d (List.mem_of_find?_eq_some hfind), ?_⟩
      rw [loaded, column, column?, List.find?_append, hfind]
      rfl

/-- The number of the record does not get in the way of the tokens. -/
lemma loaded_has {name : String} (hname : name ∈ [Defaults.tokenColumn, Defaults.tokenCountColumn]) :
    t.loaded.has name = false := by
  have hrecord : ∀ name ∈ [Defaults.tokenColumn, Defaults.tokenCountColumn],
      (Defaults.recordColumn == name) = false := by decide
  rw [loaded, has, List.any_append, Bool.or_eq_false_iff]
  exact ⟨ht.fresh name (List.mem_cons_of_mem _ hname), by simpa [Column.isNamed] using hrecord name hname⟩

/-- All columns are read by the numbers of the records. -/
lemma withTokens_loaded (hlength : t.size = tokens.length) :
    t.loaded.withTokens tokens = .ok ⟨counted (numbered 0 tokens).length,
      t.columns.map (along tokens) ++ addedColumns tokens⟩ := by
  rw [withTokens_eq (ht.loaded_has (by decide)) (ht.loaded_has (by decide)) hlength]
  have hcolumns : t.columns.map (fun c => ⟨c.name, repeatEach (tokens.map List.length) c.cells⟩)
      = t.columns.map (along tokens) := by
    refine List.map_congr_left fun c hc => congrArg (Column.mk c.name) ?_
    have hcells := ht.rectangular c hc
    rw [Column.cells_eq (hcells.trans hlength), repeatEach_numbered]
  rw [loaded, List.map_append, hcolumns, List.map_singleton, hlength, repeatEach_counted, tokenCells_flatten,
    addedColumns, length_numbered, List.append_assoc]
  rfl

lemma isNamed_addedColumns (tokens : List (List (List Char))) :
    ∀ c ∈ addedColumns tokens, c.isNamed target = false := by
  have hnames : ∀ c ∈ addedColumns tokens, ∃ name ∈ addedNames, c.name = .text name := by
    simp [addedColumns, addedNames]
  intro c hc
  obtain ⟨name, hname, hc⟩ := hnames c hc
  rw [Column.isNamed, hc]
  show (name == target) = false
  rw [beq_eq_false_iff_ne]
  rintro rfl
  exact absurd (ht.hasTarget.symm.trans (ht.fresh name hname)) (by simp)

end Ready

/-! ## What is read off the result -/

/-- The cells of a column in the rows that have a number in another one. -/
def cellsWith (t : Table) (key : String) (n : Nat) (name : String) : List Value :=
  ((((t.column? key).getD []).zip ((t.column? name).getD [])).filter fun e => e.1.eqv (.int n)).map
    Prod.snd

lemma kept_map_along (s : TableSettings) (index : List Value) (t : Table)
    (tokens : List (List (List Char))) :
    kept s ⟨index, t.columns.map (along tokens)⟩ = (t.kept s).map (along tokens) := by
  rw [kept, kept, List.filter_map]
  rfl

/-- The columns that are added are found, whatever is kept. -/
lemma Ready.column?_added {target : String} (ht : t.Ready target) (s : TableSettings) (index : List Value)
    (tokens : List (List (List Char))) {name : String} (hname : name ∈ addedNames) :
    column? ⟨index, (t.kept s).map (along tokens) ++ addedColumns tokens⟩ name
      = column? ⟨index, addedColumns tokens⟩ name := by
  have hnone : ((t.kept s).map (along tokens)).find? (·.isNamed name) = none := by
    refine List.find?_eq_none.2 fun c hc hnamed => ?_
    obtain ⟨d, hd, rfl⟩ := List.mem_map.1 hc
    exact List.any_eq_false.1 (ht.fresh name hname) d (List.mem_of_mem_filter hd) hnamed
  rw [column?, column?, List.find?_append, hnone]
  rfl

/-- **Grouping by the number of a record** gives back its tokens. -/
lemma Ready.cellsWith_record {target : String} (ht : t.Ready target) (s : TableSettings)
    (index : List Value) (tokens : List (List (List Char))) (n : Nat) :
    cellsWith ⟨index, (t.kept s).map (along tokens) ++ addedColumns tokens⟩ Defaults.recordColumn n
      Defaults.tokenColumn = tokenCells (tokens[n]?.getD []) := by
  have heqv : ∀ k : Nat, Value.eqv (.int k) (.int n) = (k == 0 + n) := by
    intro k
    rw [Nat.zero_add, Bool.eq_iff_iff]
    simp only [Value.eqv, Value.asInt?, beq_iff_eq]
    omega
  have hrecords : column? ⟨index, addedColumns tokens⟩ Defaults.recordColumn
      = some ((numbered 0 tokens).map fun e => .int e.1) := by rfl
  have htokens : column? ⟨index, addedColumns tokens⟩ Defaults.tokenColumn
      = some ((numbered 0 tokens).map fun e => .text (String.ofList e.2)) := by rfl
  rw [cellsWith, ht.column?_added s index tokens (by decide), hrecords,
    ht.column?_added s index tokens (by decide), htokens, ← filter_numbered 0 n tokens]
  simp only [Option.getD_some, List.zip_map', List.filter_map, List.map_map, Function.comp_def, heqv,
    tokenCells]

/-- A row holds the cells of its record, the number of the record, the token, and its own number. -/
lemma rows_along (columns : List Column) (tokens : List (List (List Char))) :
    rows ⟨counted (numbered 0 tokens).length, columns.map (along tokens) ++ addedColumns tokens⟩
      = (numbered 0 tokens).zipIdx.map fun e =>
        columns.map (·.cell e.1.1) ++ [.int e.1.1, .text (String.ofList e.1.2), .int e.2] := by
  have hfst : ∀ f : Nat × List Char → Value,
      (numbered 0 tokens).zipIdx.map (fun e => f e.1) = (numbered 0 tokens).map f := by
    intro f
    exact List.map_map.symm.trans (congrArg (List.map f) (List.zipIdx_map_fst 0 _))
  have hsnd : (numbered 0 tokens).zipIdx.map (fun e => Value.int e.2)
      = counted (numbered 0 tokens).length := by
    rw [counted_eq, ← List.zipIdx_map_snd, List.map_map]
    rfl
  rw [rows_of_columns (numbered 0 tokens).zipIdx
    ((columns.map fun c => (c.name, fun e => c.cell e.1.1))
      ++ [(.text Defaults.recordColumn, fun e => .int e.1.1),
        (.text Defaults.tokenColumn, fun e => .text (String.ofList e.1.2)),
        (.text Defaults.tokenCountColumn, fun e => .int e.2)])]
  · simp [Function.comp_def]
  · simp only [List.map_append, List.map_map, List.map_cons, List.map_nil, Function.comp_def, hsnd]
    congr 1
    · exact List.map_congr_left fun c _ => congrArg (Column.mk c.name) (hfst fun e => c.cell e.1).symm
    · rw [addedColumns, hfst fun e => .int e.1, hfst fun e => .text (String.ofList e.2)]
  · simp [size]

lemma any_kept (s : TableSettings) (ht : t.has s.target = true) :
    (t.kept s).any (·.isNamed s.target) = !s.dropTarget := by
  rw [kept, List.any_filter]
  cases s.dropTarget with
  | true => simp
  | false => simpa [has] using ht

end Table

namespace Settings

open Table

variable {s : Settings} {t : Table}

/-- **The processed table**: its columns are read by the numbers of the records. -/
lemma process_eq (f : Folder) (hseparator : s.separator = none) (ht : t.Ready s.table.target) :
    s.process f (.table t)
      = .ok ⟨counted (numbered 0 (t.tokensOf s.splitter s.table.target)).length,
        (t.kept s.table).map (along (t.tokensOf s.splitter s.table.target))
          ++ addedColumns (t.tokensOf s.splitter s.table.target)⟩ := by
  obtain ⟨texts, htexts, hsize, hcolumn⟩ := ht.exists_texts
  have htokens : t.tokensOf s.splitter s.table.target = texts.map fun v => s.splitter.tokens v.contents := by
    rw [tokensOf, htexts]
    rfl
  have hmap : texts.mapM s.splitter.split = .ok (t.tokensOf s.splitter s.table.target) := by
    rw [htokens]
    exact s.splitter.mapM_split (by simpa [htexts] using ht.noNull)
  have hlength : t.size = (t.tokensOf s.splitter s.table.target).length := by
    rw [htokens, List.length_map, hsize]
  generalize t.tokensOf s.splitter s.table.target = tokens at hmap hlength ⊢
  have htarget := (any_isNamed_map s.table.target (f := along tokens) (fun _ => rfl) t.columns).trans
    ht.hasTarget
  rw [process, ht.load_eq]
  show s.split t.loaded = _
  rw [split, hseparator]
  show t.loaded.splitTokens s.splitter s.table = _
  rw [Table.splitTokens, hcolumn]
  show texts.mapM s.splitter.split >>= _ = _
  rw [hmap]
  show t.loaded.withTokens tokens >>= finish s.table = _
  rw [ht.withTokens_loaded hlength]
  show finish s.table _ = _
  rw [finish_append (ht.isNamed_addedColumns tokens) htarget, kept_map_along]

/-- **One row for every token.**  Processing a table without a separator succeeds.  Its columns are those of
the table, without that of the texts if it is to be dropped, and three more; its rows are counted anew.
There is a row for each token of each record in order: it has the cells of the record, the number of the
record, the token, and the number of the token.  The rows with the number of a record hold its tokens. -/
theorem process_tokens (f : Folder) (hseparator : s.separator = none) (ht : t.Ready s.table.target) :
    ∃ result, s.process f (.table t) = .ok result
      ∧ result.names = (t.kept s.table).map (·.name) ++ addedNames.map .text
      ∧ result.index = counted result.size
      ∧ result.rows = (numbered 0 (t.tokensOf s.splitter s.table.target)).zipIdx.map (fun e =>
          (t.kept s.table).map (·.cell e.1.1) ++ [.int e.1.1, .text (String.ofList e.1.2), .int e.2])
      ∧ result.has s.table.target = !s.table.dropTarget
      ∧ ∀ (n : Nat) (text : Value), ((t.column? s.table.target).getD [])[n]? = some text →
          result.cellsWith Defaults.recordColumn n Defaults.tokenColumn
            = tokenCells (s.splitter.tokens text.contents) := by
  refine ⟨_, process_eq f hseparator ht, ?_, ?_, ?_, ?_, ?_⟩
  · rw [names, List.map_append, List.map_map]
    rfl
  · rw [size, length_counted]
  · exact rows_along _ _
  · rw [has, List.any_append, any_isNamed_map _ (f := along _) (fun _ => rfl),
      any_kept s.table ht.hasTarget,
      List.any_eq_false.2 fun c hc => by simp [ht.isNamed_addedColumns _ c hc], Bool.or_false]
  · intro n text htext
    rw [ht.cellsWith_record, tokensOf, List.getElem?_map, htext]
    rfl

/-- Three records, of which the second has no tokens, under names that repeat. -/
theorem process_tokens_pages :
    let s : Settings := ⟨(Splitter.plain (.char ',')).droppingEmpty, none, ⟨"text", true, false⟩,
      ⟨false, "INFO", "delimit_logs", none, "DEBUG"⟩⟩
    let t : Table := ⟨[.int 7, .int 7, .int 7],
      [⟨.text "text", [.text "a,b", .text ",", .text "c"]⟩, ⟨.text "page", [.int 1, .null, .int 3]⟩]⟩
    s.separator = none ∧ t.Ready s.table.target ∧ ∃ result, s.process .empty (.table t) = .ok result
      ∧ result.names
        = [.text "page", .text "delimit_record_id", .text "delimit_token", .text "delimit_token_id"]
      ∧ result.rows = [[.int 1, .int 0, .text "a", .int 0], [.int 1, .int 0, .text "b", .int 1],
        [.int 3, .int 2, .text "c", .int 2]] := by
  intro s t
  have ht : t.Ready s.table.target := by
    refine ⟨?_, rfl, by decide, ?_⟩
    · simp [t, size]
    · simp [t, s, column?, Column.isNamed]
  have htokens : t.tokensOf s.splitter s.table.target = [[['a'], ['b']], [], [['c']]] := by
    decide +kernel
  obtain ⟨result, hprocess, hnames, -, hrows, -⟩ := process_tokens .empty rfl ht
  rw [htokens] at hrows
  exact ⟨rfl, ht, result, hprocess, hnames, hrows⟩

end Settings

end TextSplit
