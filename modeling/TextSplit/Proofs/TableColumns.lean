import Mathlib.Data.List.Nodup
import Mathlib.Tactic.Lemma
import Mathlib.Tactic.SplitIfs
import TextSplit.Table

/-!
# Columns that are set, and all others

Processing sets columns by name, and a column that is there is overwritten without a word.  This file says
what becomes of all columns when one of them is set, and that what is done to rows may as well be done before
a column is set as after it.

* `Column.isNamed_iff`, `Table.has_iff` — names.
* `Table.mem_set_iff` — the column that is set, and every other one.
* `Table.set_of_not_has` — a new column comes last.
* `Table.Rectangular` — every column has a cell for each row.
* `Table.select_set`, `Table.repeated_set`, `Table.explode_set` — rows and a column that is set.
-/

namespace TextSplit

lemma Column.isNamed_iff {c : Column} {name : String} : c.isNamed name = true ↔ c.name = .text name := by
  rw [Column.isNamed]
  cases c.name <;> simp

/-- A column has one name. -/
lemma Column.not_isNamed_of_ne {c : Column} {name other : String} (hne : name ≠ other)
    (hc : c.isNamed name = true) : c.isNamed other = false := by
  rw [isNamed, isNamed_iff.1 hc]
  simpa using hne

/-- The same column with other cells. -/
def Column.mapCells (g : List Value → List Value) (c : Column) : Column := ⟨c.name, g c.cells⟩

lemma Column.isNamed_mapCells (g : List Value → List Value) (c : Column) (name : String) :
    (c.mapCells g).isNamed name = c.isNamed name := rfl

lemma Column.cells_eq {c : Column} {n : Nat} (h : c.cells.length = n) :
    c.cells = (List.range' 0 n).map c.cell := by
  refine List.ext_getElem (by simp [h]) fun k hk hk' => ?_
  simp [Column.cell, hk]

namespace Table

variable {t : Table} {name other : String} {cells : List Value} {c : Column}

lemma has_iff : t.has name = true ↔ .text name ∈ t.names := by
  simp only [has, names, List.any_eq_true, List.mem_map, Column.isNamed_iff]

lemma column_eq_ok_iff : t.column name = .ok cells ↔ t.column? name = some cells := by
  rw [column]
  cases t.column? name <;> simp [Fault.fail]

/-! ## Setting one column -/

lemma setIn_of_not_any {columns : List Column} (h : columns.any (·.isNamed name) = false) :
    setIn name cells columns = columns ++ [⟨.text name, cells⟩] := by
  induction columns with
  | nil => rfl
  | cons c rest ih =>
      obtain ⟨hc, hrest⟩ := Bool.or_eq_false_iff.1 h
      rw [setIn, if_neg (by simp [hc]), ih hrest]
      rfl

/-- A new column is set at the end. -/
lemma set_of_not_has (h : t.has name = false) :
    t.set name cells = ⟨t.index, t.columns ++ [⟨.text name, cells⟩]⟩ := by
  rw [set, setIn_of_not_any h]

lemma mem_set_self : ⟨.text name, cells⟩ ∈ (t.set name cells).columns := by
  rw [set]
  induction t.columns with
  | nil => exact List.mem_singleton_self _
  | cons c rest ih =>
      rw [setIn]
      split_ifs with hc
      · rw [Column.isNamed_iff.1 hc]
        exact List.mem_cons_self
      · exact List.mem_cons_of_mem _ ih

/-- **Every other column stays.** -/
lemma mem_set_of_mem (hc : c ∈ t.columns) (hname : c.isNamed name = false) :
    c ∈ (t.set name cells).columns := by
  rw [set]
  generalize t.columns = columns at hc ⊢
  induction columns with
  | nil => exact absurd hc List.not_mem_nil
  | cons d rest ih =>
      rw [setIn]
      rcases List.mem_cons.1 hc with rfl | hc
      · rw [if_neg (by simp [hname])]
        exact List.mem_cons_self
      · split_ifs
        · exact List.mem_cons_of_mem _ hc
        · exact List.mem_cons_of_mem _ (ih hc)

lemma mem_of_mem_setIn {columns : List Column} (hc : c ∈ setIn name cells columns) :
    c ∈ columns ∨ c = ⟨.text name, cells⟩ := by
  induction columns with
  | nil => exact Or.inr (List.mem_singleton.1 hc)
  | cons d rest ih =>
      rw [setIn] at hc
      split_ifs at hc with hd
      · rcases List.mem_cons.1 hc with rfl | hc
        · exact Or.inr (by rw [Column.isNamed_iff.1 hd])
        · exact Or.inl (List.mem_cons_of_mem _ hc)
      · rcases List.mem_cons.1 hc with rfl | hc
        · exact Or.inl List.mem_cons_self
        · exact (ih hc).imp_left (List.mem_cons_of_mem _)

/-- Setting a column adds no name but its own. -/
lemma has_set : (t.set name cells).has other = (t.has other || name == other) := by
  cases hname : t.has name with
  | true =>
      have hnames := names_set_of_has t name cells hname
      rw [Bool.eq_iff_iff, Bool.or_eq_true, beq_iff_eq, has_iff, hnames, ← has_iff]
      constructor
      · exact Or.inl
      · rintro (h | rfl)
        · exact h
        · exact hname
  | false =>
      rw [set_of_not_has hname, has, List.any_append]
      simp [Column.isNamed, has]

/-- Names stay distinct. -/
lemma nodup_names_set (h : t.names.Nodup) : (t.set name cells).names.Nodup := by
  cases hname : t.has name with
  | true => rwa [names_set_of_has t name cells hname]
  | false =>
      have hnew : .text name ∉ t.names := fun hmem => by simp [has_iff.2 hmem] at hname
      rw [set_of_not_has hname, names, List.map_append]
      exact h.append (List.nodup_singleton _) (by simpa [names] using hnew)

/-- **What is set, and what stays**, among distinct columns. -/
lemma mem_set_iff (h : t.names.Nodup) :
    c ∈ (t.set name cells).columns
      ↔ (c ∈ t.columns ∧ c.isNamed name = false) ∨ c = ⟨.text name, cells⟩ := by
  constructor
  · intro hc
    cases hname : c.isNamed name with
    | false => exact (mem_of_mem_setIn hc).imp_left fun hmem => ⟨hmem, rfl⟩
    | true =>
        exact Or.inr (List.inj_on_of_nodup_map (nodup_names_set h) hc mem_set_self
          (Column.isNamed_iff.1 hname))
  · rintro (⟨hmem, hname⟩ | rfl)
    · exact mem_set_of_mem hmem hname
    · exact mem_set_self

lemma column?_set_of_ne (h : name ≠ other) : (t.set name cells).column? other = t.column? other := by
  rw [column?, column?, set]
  congr 1
  induction t.columns with
  | nil => simp [setIn, Column.isNamed, h]
  | cons c rest ih =>
      rw [setIn]
      split_ifs with hc
      · have hother : c.isNamed other = false := Column.not_isNamed_of_ne h hc
        have hset : (⟨c.name, cells⟩ : Column).isNamed other = false := hother
        rw [List.find?_cons_of_neg (by simp [hset]), List.find?_cons_of_neg (by simp [hother])]
      · rw [List.find?_cons, List.find?_cons, ih]

/-- Leaving out other columns does not change which column of some name comes first. -/
lemma find?_filter_isNamed {columns : List Column} {p : Column → Bool}
    (h : ∀ c, c.isNamed name = true → p c = true) :
    (columns.filter p).find? (·.isNamed name) = columns.find? (·.isNamed name) := by
  rw [List.find?_filter]
  congr 1
  funext c
  cases hc : c.isNamed name with
  | true => simp [h c hc]
  | false => simp

/-! ## Cells for all rows -/

/-- Every column has a cell for each row. -/
def Rectangular (t : Table) : Prop := ∀ c ∈ t.columns, c.cells.length = t.size

lemma Rectangular.set (h : t.Rectangular) (hcells : cells.length = t.size) :
    (t.set name cells).Rectangular := by
  intro c hc
  rcases mem_of_mem_setIn hc with hc | rfl
  · exact h c hc
  · exact hcells

lemma Rectangular.length_column (h : t.Rectangular) (hcells : t.column? name = some cells) :
    cells.length = t.size := by
  obtain ⟨c, hc, rfl⟩ := Option.map_eq_some_iff.1 hcells
  exact h c (List.mem_of_find?_eq_some hc)

/-! ## Rows, and a column that is set -/

lemma map_setIn (g : List Value → List Value) (columns : List Column) :
    (setIn name cells columns).map (Column.mapCells g)
      = setIn name (g cells) (columns.map (Column.mapCells g)) := by
  induction columns with
  | nil => rfl
  | cons c rest ih =>
      rw [setIn, List.map_cons, setIn, Column.isNamed_mapCells]
      split_ifs
      · rfl
      · rw [List.map_cons, ih]

lemma select_set (marks : List Bool) :
    (t.set name cells).select marks = (t.select marks).set name (marked marks cells) :=
  congrArg (Table.mk _) (map_setIn (marked marks) t.columns)

lemma repeated_set (times : List Nat) :
    (t.set name cells).repeated times = (t.repeated times).set name (repeatEach times cells) :=
  congrArg (Table.mk _) (map_setIn (repeatEach times) t.columns)

/-- The last cells that are set count. -/
lemma set_set (old : List Value) : (t.set name old).set name cells = t.set name cells := by
  rw [set, set, set]
  congr 1
  induction t.columns with
  | nil => simp [setIn, Column.isNamed]
  | cons c rest ih =>
      by_cases hc : c.isNamed name = true
      · have hset : (⟨c.name, old⟩ : Column).isNamed name = true := hc
        rw [setIn, if_pos hc, setIn, if_pos hset, setIn, if_pos hc]
      · rw [setIn, if_neg hc, setIn, if_neg hc, setIn, if_neg hc, ih]

/-- Taking apart a column that has been set repeats the others. -/
lemma explode_set : (t.set name cells).explode name
    = .ok ((t.repeated ((cells.map partsOf).map List.length)).set name (cells.map partsOf).flatten) := by
  rw [explode, column, column?_set]
  show Except.ok (((t.set name cells).repeated _).set name _) = _
  rw [repeated_set, set_set]

end Table

end TextSplit
