import TextSplit.Proofs.WrittenForm

/-!
# The union of classes

A union keeps the tests of its first class as they are, repetitions included, and adds those of the second
that the first does not have.  So its tests depend on the order of the two classes and on how unions are
nested, as far as lists go; what it accepts does not, and in the end the lists agree as well.

Two tests of one name are two tests, and a union keeps both.

* `mem_tests_union` — which tests a union has; **`holds_union`** — which texts it holds.
* **`union_assoc`**, `union_self`, `empty_union`, `union_empty` — unions as values.
* `isPlain_union` — which unions can be written down.
* **`CharClass.union_laws`** — all of it together.
-/

namespace TextSplit.CharClass

variable {p q r : CharClass}

/-! ## The tests of a union -/

/-- A union has the tests that either class has. -/
lemma mem_tests_union {t : CharTest} : t ∈ (p.union q).tests ↔ t ∈ p.tests ∨ t ∈ q.tests := by
  simp only [union, List.mem_append, List.mem_filter, Bool.not_eq_true', List.contains_eq_mem,
    decide_eq_false_iff_not]
  by_cases ht : t ∈ p.tests <;> simp [ht]

lemma tests_union_of_nil (hp : p.tests = []) : (p.union q).tests = q.tests := by
  rw [union, hp]
  exact List.filter_eq_self.2 fun _ _ => rfl

/-- Asking the tests of a union is asking those of both classes. -/
lemma any_union (p q : CharClass) (text : List Char) :
    (p.union q).tests.any (·.onText text)
      = (p.tests.any (·.onText text) || q.tests.any (·.onText text)) := by
  rw [Bool.eq_iff_iff, Bool.or_eq_true]
  simp only [List.any_eq_true, mem_tests_union, or_and_right, exists_or]

/-- **What a union holds** is what either class holds. -/
theorem holds_union (p q : CharClass) (text : List Char) :
    (p.union q).holds text = (p.holds text || q.holds text) := by
  have hmembers : decide (text ∈ (p.union q).members)
      = (decide (text ∈ p.members) || decide (text ∈ q.members)) := by
    rw [Bool.eq_iff_iff]
    simp [union]
  have hblank : (p.union q).blank = (p.blank || q.blank) := rfl
  rw [holds, holds, holds, hmembers, hblank, any_union, Bool.and_or_distrib_right]
  ac_rfl

/-! ## Unions as values -/

/-- **Unions can be nested either way.** -/
theorem union_assoc (p q r : CharClass) : (p.union q).union r = p.union (q.union r) := by
  have hmembers : ((p.union q).union r).members = (p.union (q.union r)).members :=
    TextSet.ext fun t => by simp [union, or_assoc]
  have htests : ((p.union q).union r).tests = (p.union (q.union r)).tests := by
    calc (p.union q).tests ++ r.tests.filter (fun t => !(p.union q).tests.contains t)
        = (p.union q).tests
            ++ (r.tests.filter fun t => !q.tests.contains t).filter (fun t => !p.tests.contains t) := by
          rw [List.filter_filter]
          simp only [List.contains_eq_mem, mem_tests_union, Bool.decide_or, Bool.not_or]
      _ = p.tests ++ (q.union r).tests.filter (fun t => !p.tests.contains t) := by
          rw [union, union, List.filter_append, List.append_assoc]
  exact (CharClass.mk.injEq ..).mpr ⟨hmembers, Bool.or_assoc _ _ _, htests⟩

/-- A class adds nothing to itself. -/
lemma union_self (p : CharClass) : p.union p = p := by
  have hmembers : p.members.union p.members = p.members := TextSet.ext fun t => by simp
  have htests : p.tests ++ p.tests.filter (fun t => !p.tests.contains t) = p.tests := by
    rw [List.filter_eq_nil_iff.2 fun t ht => ?_, List.append_nil]
    simp [ht]
  exact (CharClass.mk.injEq ..).mpr ⟨hmembers, Bool.or_self _, htests⟩

lemma empty_union (p : CharClass) : empty.union p = p := by
  have hmembers : TextSet.empty.union p.members = p.members := TextSet.ext fun t => by simp
  exact (CharClass.mk.injEq ..).mpr ⟨hmembers, Bool.false_or _, tests_union_of_nil rfl⟩

lemma union_empty (p : CharClass) : p.union empty = p := by
  have hmembers : p.members.union .empty = p.members := TextSet.ext fun t => by simp
  exact (CharClass.mk.injEq ..).mpr ⟨hmembers, Bool.or_false _, List.append_nil _⟩

/-! ## Unions as plain data -/

/-- A union can be written down exactly if both classes can: what is left out of its tests is there
already. -/
lemma isPlain_union : (p.union q).isPlain = (p.isPlain && q.isPlain) := by
  cases hp : p.tests with
  | nil => rw [isPlain, isPlain, isPlain, tests_union_of_nil hp, hp, List.isEmpty_nil, Bool.true_and]
  | cons t rest => rw [isPlain, isPlain, union, hp]; rfl

/-- **The laws of the union.**  Take any three classes.

* A union accepts a character exactly if one of the two classes does, so that it does not matter which of
  them comes first.
* As values, unions can be nested either way, a class adds nothing to itself, and the class without members
  adds nothing on either side.  Tests may repeat.
* A union can be written down exactly if both classes can.  If their members are single characters, what is
  written is read as the union. -/
theorem union_laws (p q r : CharClass) :
    (∀ c, ((p.union q).accepts c = true ↔ p.accepts c = true ∨ q.accepts c = true)
        ∧ (p.union q).accepts c = (q.union p).accepts c)
      ∧ (p.union q).union r = p.union (q.union r)
      ∧ p.union p = p
      ∧ (empty.union p = p ∧ p.union empty = p)
      ∧ ((p.union q).isPlain = true ↔ p.isPlain = true ∧ q.isPlain = true)
      ∧ (p.isPlain = true → q.isPlain = true → p.Single → q.Single →
          ∃ fields, (p.union q).toPlain = .ok fields ∧ ofPlain (.dict fields) = .ok (p.union q)) := by
  have hplain : (p.union q).isPlain = true ↔ p.isPlain = true ∧ q.isPlain = true := by
    rw [isPlain_union, Bool.and_eq_true]
  refine ⟨fun c => ⟨?_, ?_⟩, union_assoc p q r, union_self p, ⟨empty_union p, union_empty p⟩, hplain,
    fun hp hq hps hqs => ?_⟩
  · rw [accepts, holds_union, Bool.or_eq_true]
    rfl
  · rw [accepts, accepts, holds_union, holds_union, Bool.or_comm]
  · have htests : (p.union q).tests = [] := List.isEmpty_iff.1 (hplain.2 ⟨hp, hq⟩)
    have hwrite := toPlain_eq_ok_iff.2 ⟨htests, rfl⟩
    exact ⟨_, hwrite, ofPlain_of_toPlain hwrite (hps.union hqs)⟩

/-- Digits, asked for twice, and a test that has its name from nowhere in particular; the other class brings
digits again and a second test of that name.  The union keeps both tests of one name, so it accepts what
either accepts, but no separator.  Without tests, the vowels and the blanks are written and read. -/
theorem union_laws_of_vowels :
    let p : CharClass := ⟨.ofChars ['-'], false, [.digit, .digit, .own 0 "<lambda>" (· == 'x')]⟩
    let q : CharClass := ⟨.ofChars CharTest.vowels, true, [.own 1 "<lambda>" (· == 'y'), .digit]⟩
    let k : CharClass := .anyOf CharTest.vowels
    (p.union q).tests.map CharTest.name = ["isdigit", "isdigit", "<lambda>", "<lambda>"]
      ∧ (p.union q).accepts 'x' = true ∧ (p.union q).accepts 'y' = true
      ∧ (p.union q).accepts '\x1c' = false
      ∧ (p.union q).accepts 'z' = (q.union p).accepts 'z'
      ∧ ∃ fields, (k.union .blanks).toPlain = .ok fields
        ∧ ofPlain (.dict fields) = .ok (k.union .blanks) := by
  intro p q k
  obtain ⟨haccepts, -⟩ := union_laws p q .empty
  obtain ⟨-, -, -, -, -, hwritten⟩ := union_laws k .blanks .empty
  have hblanks : CharClass.Single .blanks := fun t ht => absurd ht TextSet.not_mem_empty
  refine ⟨by decide, ?_, ?_, ?_, (haccepts 'z').2, hwritten rfl rfl (.anyOf _) hblanks⟩
  · exact (haccepts 'x').1.2 (Or.inl (by decide))
  · exact (haccepts 'y').1.2 (Or.inr (by decide))
  · rw [← Bool.not_eq_true, (haccepts _).1, not_or]
    decide

end TextSplit.CharClass
