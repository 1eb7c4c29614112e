import TextSplit.Value
import Mathlib.Tactic.Lemma

/-!
# Fields of a mapping

Settings are written as mappings whose keys are texts, entry after entry, and read back by name.  What
a name finds, and what is left when some names are taken out, follows from the names that each part of
the mapping uses.

* `get?_append` — an earlier entry hides a later one of its name.
* `Keyed` — every key is one of some names.
* `get?_append_left`, `get?_append_right`, `without_of_keyed`, `without_eq_nil_of_keyed` — a part with
  other names is not seen, and it is left alone or taken out as a whole.
-/

namespace TextSplit.Value

variable {names : List String} {key : String} {xs ys : List (Value × Value)}

@[simp] lemma get?_nil (key : String) : get? [] key = none := rfl

@[simp] lemma get?_cons_text (name key : String) (v : Value) (xs : List (Value × Value)) :
    get? ((.text name, v) :: xs) key = if name == key then some v else get? xs key := rfl

/-- **The first entry of a name counts**, wherever the mapping is taken apart. -/
theorem get?_append (xs ys : List (Value × Value)) (key : String) :
    get? (xs ++ ys) key = (get? xs key).or (get? ys key) := by
  fun_induction get? xs key with
  | case1 => rfl
  | case2 name v rest hname => rw [List.cons_append, get?_cons_text, if_pos hname]; rfl
  | case3 name v rest hname ih => rw [List.cons_append, get?_cons_text, if_neg hname, ih]
  | case4 entry rest hentry ih => rw [List.cons_append, get?.eq_3 _ _ _ hentry, ih]

lemma without_append (xs ys : List (Value × Value)) (names : List String) :
    without (xs ++ ys) names = without xs names ++ without ys names :=
  List.filter_append _ _

/-! ## Parts with known names -/

/-- Every key is one of the given names. -/
def Keyed (names : List String) (entries : List (Value × Value)) : Prop :=
  ∀ entry ∈ entries, ∃ name ∈ names, entry.1 = .text name

lemma keyed_nil (names : List String) : Keyed names [] :=
  fun _ h => absurd h List.not_mem_nil

lemma Keyed.cons {name : String} (hname : name ∈ names) (v : Value) (h : Keyed names xs) :
    Keyed names ((.text name, v) :: xs) :=
  List.forall_mem_cons.2 ⟨⟨name, hname, rfl⟩, h⟩

lemma keyed_singleton {name : String} (hname : name ∈ names) (v : Value) :
    Keyed names [(.text name, v)] :=
  .cons hname v (keyed_nil names)

lemma Keyed.ite {p : Prop} [Decidable p] (hx : Keyed names xs) (hy : Keyed names ys) :
    Keyed names (if p then xs else ys) := by
  split
  · exact hx
  · exact hy

lemma Keyed.append (hx : Keyed names xs) (hy : Keyed names ys) : Keyed names (xs ++ ys) :=
  List.forall_mem_append.2 ⟨hx, hy⟩

lemma Keyed.mono {more : List String} (h : Keyed names xs) (hsub : names ⊆ more) : Keyed more xs :=
  fun entry hentry => (h entry hentry).imp fun _ hname => ⟨hsub hname.1, hname.2⟩

/-- A name that no entry uses finds nothing. -/
lemma get?_of_keyed (h : Keyed names xs) (hkey : key ∉ names) : get? xs key = none := by
  induction xs with
  | nil => rfl
  | cons entry rest ih =>
      obtain ⟨⟨name, hname, hentry⟩, hrest⟩ := List.forall_mem_cons.1 h
      obtain ⟨k, v⟩ := entry
      obtain rfl : k = .text name := hentry
      have hne : ¬ (name == key) = true := fun heq => hkey (eq_of_beq heq ▸ hname)
      rw [get?_cons_text, if_neg hne, ih hrest]

/-- What is written behind with other names does not matter. -/
lemma get?_append_left (xs : List (Value × Value)) (hy : Keyed names ys) (hkey : key ∉ names) :
    get? (xs ++ ys) key = get? xs key := by
  rw [get?_append, get?_of_keyed hy hkey, Option.or_none]

/-- What is written before with other names does not matter. -/
lemma get?_append_right (hx : Keyed names xs) (ys : List (Value × Value)) (hkey : key ∉ names) :
    get? (xs ++ ys) key = get? ys key := by
  rw [get?_append, get?_of_keyed hx hkey, Option.none_or]

/-- What holds of the texts holds of the keys. -/
lemma Keyed.forall_key {P : Value → Prop} (h : Keyed names xs) (hP : ∀ name ∈ names, P (.text name)) :
    ∀ v ∈ xs.map Prod.fst, P v := by
  intro v hv
  obtain ⟨entry, hentry, rfl⟩ := List.mem_map.1 hv
  obtain ⟨name, hname, heq⟩ := h entry hentry
  exact heq ▸ hP name hname

/-- Entries with other names are left alone. -/
lemma without_of_keyed {out : List String} (h : Keyed names xs) (hout : ∀ name ∈ names, name ∉ out) :
    without xs out = xs := by
  refine List.filter_eq_self.2 fun entry hentry => ?_
  obtain ⟨name, hname, heq⟩ := h entry hentry
  have hnot : out.contains name = false := by
    rw [← Bool.not_eq_true, List.contains_iff_mem]
    exact hout name hname
  simp only [heq, hnot, Bool.not_false]

/-- Entries with these names are taken out. -/
lemma without_eq_nil_of_keyed (h : Keyed names xs) : without xs names = [] := by
  refine List.filter_eq_nil_iff.2 fun entry hentry => ?_
  obtain ⟨name, hname, heq⟩ := h entry hentry
  simp only [heq, List.contains_iff_mem.2 hname, Bool.not_true, Bool.false_eq_true, not_false_iff]

end TextSplit.Value
