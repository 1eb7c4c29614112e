import TextSplit.Proofs.Fields

/-!
# Plain data

Settings arrive as plain data: nothing, truth values, numbers, texts, lists, and mappings whose keys are
texts.  No part of such a value is an object of the program itself.

* `Value.isPlain` — whether a value is plain data; it can be evaluated.
* `Value.same`, `eq_of_same` — whether two values are the same plain data; this can be evaluated too, while
  equality of values in general cannot.
* `isPlain_of_get?`, `entriesPlain_without` — a field of plain data is plain, and so is what is left of a
  mapping.
-/

namespace TextSplit.Value

mutual

/-- Whether a value is plain data. -/
def isPlain : Value → Bool
  | .null | .bool _ | .int _ | .real _ | .text _ => true
  | .list items => allPlain items
  | .dict entries => entriesPlain entries
  | .bytes _ | .tuple _ | .thing _ => false

/-- Whether several values are plain data. -/
def allPlain : List Value → Bool
  | [] => true
  | v :: rest => v.isPlain && allPlain rest

/-- Whether the keys of a mapping are texts and its values plain data. -/
def entriesPlain : List (Value × Value) → Bool
  | [] => true
  | (.text _, v) :: rest => v.isPlain && entriesPlain rest
  | _ :: _ => false

end

mutual

/-- Whether two values are the same plain data. -/
def same : Value → Value → Bool
  | .null, .null => true
  | .bool b, .bool b' => b == b'
  | .int n, .int n' => n == n'
  | .real x, .real x' => x == x'
  | .text s, .text s' => s == s'
  | .list items, .list items' => allSame items items'
  | .dict entries, .dict entries' => entriesSame entries entries'
  | _, _ => false

/-- Whether several values are the same plain data, one by one. -/
def allSame : List Value → List Value → Bool
  | [], [] => true
  | v :: rest, v' :: rest' => same v v' && allSame rest rest'
  | _, _ => false

/-- Whether two mappings are the same plain data, entry by entry. -/
def entriesSame : List (Value × Value) → List (Value × Value) → Bool
  | [], [] => true
  | (k, v) :: rest, (k', v') :: rest' => same k k' && same v v' && entriesSame rest rest'
  | _, _ => false

end

variable {entries : List (Value × Value)} {key : String} {v : Value}

/-- Only lists and mappings have parts to compare. -/
lemma same_cases {v w : Value} (h : same v w = true) :
    v = w ∨ (∃ items items', v = .list items ∧ w = .list items' ∧ allSame items items' = true)
      ∨ ∃ entries entries', v = .dict entries ∧ w = .dict entries' ∧ entriesSame entries entries' = true := by
  unfold same at h
  split at h
  all_goals simp_all

mutual

lemma eq_of_same : ∀ {v w : Value}, same v w = true → v = w := by
  intro v w h
  obtain heq | ⟨items, items', hv, rfl, hitems⟩ | ⟨entries, entries', hv, rfl, hentries⟩ := same_cases h
  · exact heq
  · rw [hv, eq_of_allSame hitems]
  · rw [hv, eq_of_entriesSame hentries]
termination_by v => sizeOf v

lemma eq_of_allSame : ∀ {items items' : List Value}, allSame items items' = true → items = items'
  | [], [], _ => rfl
  | [], _ :: _, h => absurd h (by simp [allSame])
  | _ :: _, [], h => absurd h (by simp [allSame])
  | v :: rest, v' :: rest', h => by
      simp only [allSame, Bool.and_eq_true] at h
      rw [eq_of_same h.1, eq_of_allSame h.2]
termination_by items => sizeOf items

lemma eq_of_entriesSame : ∀ {entries entries' : List (Value × Value)},
    entriesSame entries entries' = true → entries = entries'
  | [], [], _ => rfl
  | [], _ :: _, h => absurd h (by simp [entriesSame])
  | _ :: _, [], h => absurd h (by simp [entriesSame])
  | (k, v) :: rest, (k', v') :: rest', h => by
      simp only [entriesSame, Bool.and_eq_true] at h
      rw [eq_of_same h.1.1, eq_of_same h.1.2, eq_of_entriesSame h.2]
termination_by entries => sizeOf entries

end

lemma entriesPlain_cons_iff {entry : Value × Value} :
    entriesPlain (entry :: entries) = true
      ↔ (∃ name, entry.1 = .text name) ∧ entry.2.isPlain = true ∧ entriesPlain entries = true := by
  obtain ⟨k, v⟩ := entry
  cases k with
  | text name => simp [entriesPlain]
  | _ => simp [entriesPlain]

lemma entriesPlain_iff :
    entriesPlain entries = true
      ↔ ∀ entry ∈ entries, (∃ name, entry.1 = .text name) ∧ entry.2.isPlain = true := by
  induction entries with
  | nil => simp [entriesPlain]
  | cons entry rest ih => rw [entriesPlain_cons_iff, ih, List.forall_mem_cons, and_assoc]

/-- What a name finds stands in one of the entries. -/
lemma mem_of_get? (h : get? entries key = some v) : (.text key, v) ∈ entries := by
  fun_induction get? entries key with
  | case1 => exact absurd h (by simp)
  | case2 name value rest hname =>
      obtain rfl := Option.some.inj h
      exact eq_of_beq hname ▸ List.mem_cons_self
  | case3 name value rest hname ih => exact List.mem_cons_of_mem _ (ih h)
  | case4 entry rest hentry ih => exact List.mem_cons_of_mem _ (ih h)

lemma isPlain_of_get? (hplain : entriesPlain entries = true) (h : get? entries key = some v) :
    v.isPlain = true :=
  (entriesPlain_iff.1 hplain _ (mem_of_get? h)).2

lemma entriesPlain_without (hplain : entriesPlain entries = true) (names : List String) :
    entriesPlain (without entries names) = true :=
  entriesPlain_iff.2 fun entry hentry => entriesPlain_iff.1 hplain entry (List.mem_filter.1 hentry).1

/-- A name that is not taken out is found as before. -/
lemma get?_without {names : List String} (hkey : key ∉ names) (entries : List (Value × Value)) :
    get? (without entries names) key = get? entries key := by
  induction entries with
  | nil => rfl
  | cons entry rest ih =>
      obtain ⟨k, v⟩ := entry
      cases k with
      | text name =>
          -- a name that is taken out is not the one that is looked for
          by_cases hout : name ∈ names
          · have hne : ¬ (name == key) = true := fun heq => hkey (eq_of_beq heq ▸ hout)
            rw [get?_cons_text, if_neg hne, ← ih]
            simp [without, hout]
          · have hcons : without ((.text name, v) :: rest) names
                = (.text name, v) :: without rest names := by simp [without, hout]
            rw [hcons, get?_cons_text, get?_cons_text, ih]
      | _ => exact ih

end TextSplit.Value
