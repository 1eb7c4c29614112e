import TextSplit.Trim
import Mathlib.Data.List.DropRight
import Mathlib.Tactic.Lemma

/-!
# Stretches of a text, and what trimming leaves of them

Cutting and trimming compute with places: `stretch text a b` is named by its two ends, and
`trimSpan` moves those ends.  What a caller sees are texts.  This file goes from the places to the
texts, so that later files can reason about lists of characters alone.

* `stretch_append_drop` — a stretch and the tail behind it are glued together.
* `stretch_grow` — a stretch that ends inside a text is not touched when the text grows.
* `strip`, `stripEnd` — trimming said on texts: the longest run of trimmed characters goes, at
  both ends or at the right end alone.
* `le_trimSpan` — the trimmed ends lie in order inside the stretch.
* **`stretch_trimSpan`** and **`stretch_trimSpanEnd`** — moving the ends is stripping the text.
-/

namespace TextSplit

/-! ## Stretches -/

@[simp] lemma length_stretch (text : List Char) (a b : Nat) :
    (stretch text a b).length = min (b - a) (text.length - a) := by
  simp [stretch]

/-- The stretch up to the end of the text is a tail of it. -/
lemma stretch_to_length (text : List Char) (a : Nat) :
    stretch text a text.length = text.drop a := by
  rw [stretch, List.take_of_length_le (by rw [List.length_drop])]

/-- A stretch and the tail behind it are the tail from its start on. -/
lemma stretch_append_drop {a b : Nat} (text : List Char) (hab : a ≤ b) :
    stretch text a b ++ text.drop b = text.drop a := by
  rw [stretch]
  conv_lhs => rw [show b = a + (b - a) by omega, ← List.drop_drop, Nat.add_sub_cancel_left]
  exact List.take_append_drop _ _

/-- Taking characters off the left of a stretch moves its start. -/
lemma drop_stretch (text : List Char) (a b n : Nat) :
    (stretch text a b).drop n = stretch text (a + n) b := by
  rw [stretch, stretch, List.drop_take, List.drop_drop, Nat.sub_sub]

/-- Keeping the first characters of a stretch moves its end. -/
lemma take_stretch (text : List Char) (a b n : Nat) (h : n ≤ b - a) :
    (stretch text a b).take n = stretch text a (a + n) := by
  rw [stretch, stretch, List.take_take, Nat.min_eq_left h, Nat.add_sub_cancel_left]

/-- **What is cut stays cut.**  A stretch that ends inside a text is the same stretch of every
longer text. -/
lemma stretch_grow {text : List Char} {a b : Nat} (more : List Char) (h : b ≤ text.length) :
    stretch (text ++ more) a b = stretch text a b := by
  rcases Nat.lt_or_ge b a with hba | hab
  · have hz : b - a = 0 := by omega
    rw [stretch, stretch, hz, List.take_zero, List.take_zero]
  · rw [stretch, stretch, List.drop_append_of_le_length (by omega),
      List.take_append_of_le_length (by rw [List.length_drop]; omega)]

/-! ## Stripping -/

namespace CharClass

/-- The text without its longest run of accepted characters on the right. -/
def stripEnd (k : CharClass) (token : List Char) : List Char := token.rdropWhile k.accepts

/-- The text without its longest runs of accepted characters on either side. -/
def strip (k : CharClass) (token : List Char) : List Char :=
  k.stripEnd (token.dropWhile k.accepts)

end CharClass

/-- What an optional trimmer leaves of a text on the right. -/
def stripEnd (trimmer : Option CharClass) (token : List Char) : List Char :=
  match trimmer with
  | none => token
  | some k => k.stripEnd token

/-- What an optional trimmer leaves of a text. -/
def strip (trimmer : Option CharClass) (token : List Char) : List Char :=
  match trimmer with
  | none => token
  | some k => k.strip token

namespace CharClass

variable (k : CharClass)

/-- Taking off as many characters as the run of accepted ones has takes off that run. -/
lemma drop_length_takeWhile (token : List Char) :
    token.drop (token.takeWhile k.accepts).length = token.dropWhile k.accepts := by
  have h : (token.takeWhile k.accepts ++ token.dropWhile k.accepts).drop
      (token.takeWhile k.accepts).length = token.dropWhile k.accepts := List.drop_left
  rwa [List.takeWhile_append_dropWhile] at h

lemma length_run_le (text : List Char) (a b : Nat) :
    ((stretch text a b).takeWhile k.accepts).length ≤ b - a := by
  have h := (List.takeWhile_prefix (l := stretch text a b) k.accepts).length_le
  rw [length_stretch] at h
  omega

lemma length_run_reverse_le (text : List Char) (a b : Nat) :
    ((stretch text a b).reverse.takeWhile k.accepts).length ≤ b - a := by
  have h := (List.takeWhile_prefix (l := (stretch text a b).reverse) k.accepts).length_le
  rw [List.length_reverse, length_stretch] at h
  omega

lemma le_trimStart (text : List Char) {a b : Nat} (hab : a ≤ b) :
    a ≤ k.trimStart text a b ∧ k.trimStart text a b ≤ b := by
  have := k.length_run_le text a b
  rw [trimStart]
  omega

lemma le_trimEnd (text : List Char) {a b : Nat} (hab : a ≤ b) :
    a ≤ k.trimEnd text a b ∧ k.trimEnd text a b ≤ b := by
  have := k.length_run_reverse_le text a b
  rw [trimEnd]
  omega

/-- Moving the start past the accepted characters drops them. -/
lemma stretch_trimStart (text : List Char) (a b : Nat) :
    stretch text (k.trimStart text a b) b = (stretch text a b).dropWhile k.accepts := by
  rw [trimStart, ← drop_stretch, drop_length_takeWhile]

/-- Moving the end before the accepted characters drops them. -/
lemma stretch_trimEnd {text : List Char} {a b : Nat} (hab : a ≤ b) (hb : b ≤ text.length) :
    stretch text a (k.trimEnd text a b) = k.stripEnd (stretch text a b) := by
  set run := ((stretch text a b).reverse.takeWhile k.accepts).length with hrun
  have hle : run ≤ b - a := k.length_run_reverse_le text a b
  have hlen : (stretch text a b).length = b - a := by
    rw [length_stretch]
    omega
  calc stretch text a (k.trimEnd text a b)
      = stretch text a (a + (b - a - run)) := by
        rw [trimEnd, ← hrun, show a + (b - a - run) = b - run by omega]
    _ = (stretch text a b).take (b - a - run) := (take_stretch text a b _ (by omega)).symm
    _ = ((stretch text a b).reverse.drop run).reverse := by
        rw [List.drop_reverse, List.reverse_reverse, hlen]
    _ = k.stripEnd (stretch text a b) := by
        rw [hrun, drop_length_takeWhile, stripEnd, List.rdropWhile]

end CharClass

/-! ## Both ends under an optional trimmer -/

section TrimSpan

variable (trimmer : Option CharClass) {text : List Char} {a b : Nat}

/-- Trimming moves the ends of a stretch towards each other, and never past each other. -/
lemma le_trimSpan (text : List Char) (hab : a ≤ b) :
    a ≤ (trimSpan trimmer text a b).1
      ∧ (trimSpan trimmer text a b).1 ≤ (trimSpan trimmer text a b).2
      ∧ (trimSpan trimmer text a b).2 ≤ b := by
  cases trimmer with
  | none => exact ⟨Nat.le_refl _, hab, Nat.le_refl _⟩
  | some k =>
      have hs := k.le_trimStart text hab
      have he := k.le_trimEnd text hs.2
      exact ⟨hs.1, he.1, he.2⟩

/-- **Trimming is stripping.**  The stretch between the trimmed ends is the stripped stretch. -/
theorem stretch_trimSpan (hab : a ≤ b) (hb : b ≤ text.length) :
    stretch text (trimSpan trimmer text a b).1 (trimSpan trimmer text a b).2
      = strip trimmer (stretch text a b) := by
  cases trimmer with
  | none => rfl
  | some k =>
      simp only [trimSpan, strip, CharClass.strip]
      rw [k.stretch_trimEnd (k.le_trimStart text hab).2 hb, k.stretch_trimStart]

/-- **Trimming the right end alone.**  The left end may lie anywhere before it. -/
theorem stretch_trimSpanEnd (hab : a ≤ b) (hb : b ≤ text.length) :
    stretch text a (trimSpanEnd trimmer text a b) = stripEnd trimmer (stretch text a b) := by
  cases trimmer with
  | none => rfl
  | some k => exact k.stretch_trimEnd hab hb

/-- The trimmed ends fall together exactly if stripping leaves nothing. -/
lemma trimSpan_eq_iff (hab : a ≤ b) (hb : b ≤ text.length) :
    (trimSpan trimmer text a b).1 = (trimSpan trimmer text a b).2
      ↔ strip trimmer (stretch text a b) = [] := by
  have hle := le_trimSpan trimmer text hab
  rw [← stretch_trimSpan trimmer hab hb, ← List.length_eq_zero_iff, length_stretch]
  omega

/-- Where the trimmed ends lie does not depend on what follows the stretch. -/
lemma trimSpan_grow (more : List Char) (hb : b ≤ text.length) :
    trimSpan trimmer (text ++ more) a b = trimSpan trimmer text a b := by
  cases trimmer with
  | none => rfl
  | some k =>
      simp only [trimSpan, CharClass.trimStart, CharClass.trimEnd, stretch_grow more hb]

end TrimSpan

end TextSplit
