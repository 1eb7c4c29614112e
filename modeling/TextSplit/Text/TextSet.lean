/-!
# Finite sets of texts

A set of texts is kept as its members in ascending order of code points, each once.  The order is
part of the type, so two sets are equal as values exactly when they have the same members.

* `TextSet` — the type; `TextSet.empty`, `insert`, `ofList`, `union` build sets.
* `TextSet.mem_insert`, `mem_union` — what the operations do to membership.
* `TextSet.ext` — sets with the same members are equal.
-/

namespace TextSplit

/-- A finite set of texts. -/
structure TextSet where
  texts : List (List Char)
  ascending : texts.Pairwise (· < ·)
  deriving DecidableEq

namespace TextSet

instance : Membership (List Char) TextSet := ⟨fun s t => t ∈ s.texts⟩

instance (t : List Char) (s : TextSet) : Decidable (t ∈ s) :=
  inferInstanceAs (Decidable (t ∈ s.texts))

theorem mem_def {t : List Char} {s : TextSet} : t ∈ s ↔ t ∈ s.texts := Iff.rfl

/-- The set without members. -/
def empty : TextSet := ⟨[], .nil⟩

instance : Inhabited TextSet := ⟨empty⟩

/-- Puts a text in its place among texts in ascending order. -/
def insertText (t : List Char) : List (List Char) → List (List Char)
  | [] => [t]
  | u :: rest =>
    if t < u then t :: u :: rest else if t = u then u :: rest else u :: insertText t rest

theorem lt_of_not_lt_of_ne {t u : List Char} (h : ¬ t < u) (hne : t ≠ u) : u < t := by
  rcases Decidable.em (u < t) with h' | h'
  · exact h'
  · exact absurd (List.le_antisymm (List.not_lt.1 h') (List.not_lt.1 h)) hne

theorem mem_insertText {t u : List Char} {texts : List (List Char)} :
    u ∈ insertText t texts ↔ u = t ∨ u ∈ texts := by
  induction texts with
  | nil => simp [insertText]
  | cons v rest ih =>
    simp only [insertText]
    split
    · simp
    · split
      · rename_i h; subst h; simp
      · simp only [List.mem_cons, ih]
        constructor
        · rintro (h | h | h) <;> simp [h]
        · rintro (h | h | h) <;> simp [h]

theorem pairwise_insertText {t : List Char} {texts : List (List Char)}
    (h : texts.Pairwise (· < ·)) : (insertText t texts).Pairwise (· < ·) := by
  induction texts with
  | nil => simp [insertText]
  | cons v rest ih =>
    obtain ⟨hv, hrest⟩ := List.pairwise_cons.1 h
    simp only [insertText]
    split
    · rename_i hlt
      refine List.pairwise_cons.2 ⟨fun u hu => ?_, h⟩
      rcases List.mem_cons.1 hu with rfl | hu
      · exact hlt
      · exact List.lt_trans hlt (hv u hu)
    · split
      · exact h
      · rename_i hlt hne
        refine List.pairwise_cons.2 ⟨fun u hu => ?_, ih hrest⟩
        rcases mem_insertText.1 hu with rfl | hu
        · exact lt_of_not_lt_of_ne hlt hne
        · exact hv u hu

/-- Adds a text. -/
def insert (s : TextSet) (t : List Char) : TextSet :=
  ⟨insertText t s.texts, pairwise_insertText s.ascending⟩

/-- The set of the given texts. -/
def ofList (texts : List (List Char)) : TextSet := texts.foldl insert empty

/-- The members of either set. -/
def union (a b : TextSet) : TextSet := b.texts.foldl insert a

/-- The characters of a text, each as a text of its own. -/
def ofChars (chars : List Char) : TextSet := ofList (chars.map fun c => [c])

/-- Whether the set has no member. -/
def isEmpty (s : TextSet) : Bool := s.texts.isEmpty

/-- The members one after another, in order. -/
def joined (s : TextSet) : List Char := s.texts.flatten

@[simp] theorem mem_insert {s : TextSet} {t u : List Char} : u ∈ s.insert t ↔ u = t ∨ u ∈ s :=
  mem_insertText

theorem mem_foldl_insert {texts : List (List Char)} {s : TextSet} {u : List Char} :
    u ∈ texts.foldl insert s ↔ u ∈ s ∨ u ∈ texts := by
  induction texts generalizing s with
  | nil => simp
  | cons t rest ih =>
    simp only [List.foldl_cons, ih, mem_insert, List.mem_cons]
    constructor
    · rintro ((h | h) | h) <;> simp [h]
    · rintro (h | h | h) <;> simp [h]

@[simp] theorem not_mem_empty {u : List Char} : u ∉ empty := by
  simp [mem_def, empty]

@[simp] theorem mem_ofList {texts : List (List Char)} {u : List Char} :
    u ∈ ofList texts ↔ u ∈ texts := by
  simp [ofList, mem_foldl_insert]

@[simp] theorem mem_union {a b : TextSet} {u : List Char} : u ∈ a.union b ↔ u ∈ a ∨ u ∈ b :=
  mem_foldl_insert

/-- A list in strictly ascending order is determined by its members. -/
theorem eq_of_pairwise_of_mem_iff {xs ys : List (List Char)} (hx : xs.Pairwise (· < ·))
    (hy : ys.Pairwise (· < ·)) (h : ∀ t, t ∈ xs ↔ t ∈ ys) : xs = ys := by
  induction xs generalizing ys with
  | nil =>
    cases ys with
    | nil => rfl
    | cons y ys => exact absurd ((h y).2 (by simp)) (by simp)
  | cons x xs ih =>
    cases ys with
    | nil => exact absurd ((h x).1 (by simp)) (by simp)
    | cons y ys =>
      obtain ⟨hx1, hx2⟩ := List.pairwise_cons.1 hx
      obtain ⟨hy1, hy2⟩ := List.pairwise_cons.1 hy
      have hxy : x = y := by
        rcases List.mem_cons.1 ((h x).1 (by simp)) with hxy | hxy
        · exact hxy
        · rcases List.mem_cons.1 ((h y).2 (by simp)) with hyx | hyx
          · exact hyx.symm
          · exact absurd (List.lt_trans (hy1 x hxy) (hx1 y hyx)) (List.lt_irrefl y)
      subst hxy
      congr 1
      refine ih hx2 hy2 fun t => ?_
      constructor
      · intro ht
        rcases List.mem_cons.1 ((h t).1 (by simp [ht])) with rfl | h'
        · exact absurd (hx1 t ht) (List.lt_irrefl t)
        · exact h'
      · intro ht
        rcases List.mem_cons.1 ((h t).2 (by simp [ht])) with rfl | h'
        · exact absurd (hy1 t ht) (List.lt_irrefl t)
        · exact h'

/-- **Extensionality.**  Sets with the same members are equal. -/
theorem ext {a b : TextSet} (h : ∀ t, t ∈ a ↔ t ∈ b) : a = b := by
  obtain ⟨xs, hx⟩ := a
  obtain ⟨ys, hy⟩ := b
  have : xs = ys := eq_of_pairwise_of_mem_iff hx hy h
  subst this
  rfl

end TextSet

end TextSplit
