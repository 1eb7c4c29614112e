import TextSplit.Proofs.Boundary
import Mathlib.Data.List.Infix

/-!
# The first boundary

A search answers with the first place that passes its test.  Boundary.lean says that a place which is
found passes; this file adds that no place before it does, and that a search which finds nothing has
missed nothing.  For a character and for a separator the test is whether the text of the delimiter
stands at a place, so that both are one case: a character is a separator of length one.

* `seek_drop_eq_some_iff`, `seek_drop_eq_none_iff` — what a search finds, and when it finds nothing.
* `Delimiter.separator?` — the text of a delimiter that has one.
* **`locate_eq_some_iff`**, **`locate_eq_none_iff`** — the boundary of such a delimiter is the first
  occurrence of its text.
* `not_infix_take` — the text before that boundary does not hold the separator.
* `Closes`, `locate_append` — when the separator behind a text is found at the end of that text.
-/

namespace TextSplit.Delimiter

variable {text : List Char} {start s : Nat}

/-! ## Searches -/

section Seek

variable {here : List Char → Bool}

/-- **A search stops in time.**  If a place passes the test, the search ends there or before.  The
induction is on the way to that place. -/
lemma seek_drop_of_here {q : Nat} (hq : start ≤ q) (h : here (text.drop q) = true) :
    ∃ s, seek here (text.drop start) start = some s ∧ s ≤ q := by
  induction hn : q - start generalizing start with
  | zero =>
      have hstart : start = q := by omega
      subst hstart
      refine ⟨start, ?_, Nat.le_refl _⟩
      cases hd : text.drop start with
      | nil => rw [seek, ← hd, if_pos h]
      | cons c rest => rw [seek, ← hd, if_pos h]
  | succ n ih =>
      obtain ⟨s, hs, hle⟩ := ih (show start + 1 ≤ q by omega) (by omega)
      cases hd : text.drop start with
      | nil =>
          have hlen : text.length ≤ start := List.drop_eq_nil_iff.1 hd
          rw [List.drop_eq_nil_of_le (by omega)] at h
          exact ⟨start, by rw [seek, if_pos h], hq⟩
      | cons c rest =>
          have hrest : text.drop (start + 1) = rest := by
            rw [← List.drop_drop, hd, List.drop_succ_cons, List.drop_zero]
          rw [hrest] at hs
          rw [seek]
          split_ifs
          · exact ⟨start, rfl, hq⟩
          · exact ⟨s, hs, hle⟩

/-- **What a search finds** is the first place that passes the test. -/
theorem seek_drop_eq_some_iff (hnil : here [] = false) :
    seek here (text.drop start) start = some s
      ↔ start ≤ s ∧ here (text.drop s) = true
        ∧ ∀ q, start ≤ q → q < s → here (text.drop q) = false := by
  constructor
  · intro h
    obtain ⟨hle, -, hhere⟩ := seek_drop_spec h hnil
    refine ⟨hle, hhere, fun q hq hqs => Bool.eq_false_iff.2 fun hpass => ?_⟩
    obtain ⟨s', hs', hle'⟩ := seek_drop_of_here hq hpass
    rw [h, Option.some.injEq] at hs'
    omega
  · rintro ⟨hle, hhere, hbefore⟩
    obtain ⟨s', hs', hle'⟩ := seek_drop_of_here hle hhere
    obtain ⟨hstart, -, hpass⟩ := seek_drop_spec hs' hnil
    rcases Nat.eq_or_lt_of_le hle' with rfl | hlt
    · exact hs'
    · rw [hbefore s' hstart hlt] at hpass
      exact absurd hpass Bool.false_ne_true

/-- **A search that finds nothing** has missed nothing. -/
theorem seek_drop_eq_none_iff (hnil : here [] = false) :
    seek here (text.drop start) start = none
      ↔ ∀ q, start ≤ q → here (text.drop q) = false := by
  constructor
  · intro h q hq
    refine Bool.eq_false_iff.2 fun hpass => ?_
    obtain ⟨s, hs, -⟩ := seek_drop_of_here hq hpass
    rw [h] at hs
    exact absurd hs (by simp)
  · intro h
    rcases hs : seek here (text.drop start) start with _ | s
    · rfl
    · obtain ⟨hle, -, hpass⟩ := seek_drop_spec hs hnil
      rw [h s hle] at hpass
      exact absurd hpass Bool.false_ne_true

end Seek

/-! ## Delimiters with a text -/

/-- The text at which a delimiter cuts, if it always cuts at the same one. -/
def separator? : Delimiter → Option (List Char)
  | .char c => some [c]
  | .literal separator _ => some separator
  | _ => none

variable {d : Delimiter} {sep : List Char}

lemma separator?_ne_nil (hd : d.separator? = some sep) : sep ≠ [] := by
  cases d with
  | char c =>
      rw [← Option.some.inj hd]
      exact List.cons_ne_nil _ _
  | literal separator hasChar =>
      rw [← Option.some.inj hd]
      exact hasChar
  | pattern p cuts => exact absurd hd (by simp [separator?])
  | chunk length positive => exact absurd hd (by simp [separator?])
  | charClass k => exact absurd hd (by simp [separator?])

/-- At the end of a text there is no separator. -/
lemma isPrefixOf_nil_of_separator? (hd : d.separator? = some sep) : sep.isPrefixOf [] = false := by
  have hne := separator?_ne_nil hd
  cases sep with
  | nil => exact absurd rfl hne
  | cons c rest => rfl

lemma not_isPattern_of_separator? (hd : d.separator? = some sep) : ¬ d.IsPattern := by
  cases d with
  | pattern p cuts => exact absurd hd (by simp [separator?])
  | _ => exact not_false

variable [PatternSearch]

/-- A delimiter with a text looks for that text. -/
lemma locate_of_separator? (hd : d.separator? = some sep) :
    d.locate text start
      = (seek (sep.isPrefixOf ·) (text.drop start) start).map fun s => (s, s + sep.length) := by
  cases d with
  | char c =>
      rw [← Option.some.inj hd]
      have hhere : (fun rest : List Char => rest.head? == some c) = ([c].isPrefixOf ·) := by
        funext rest
        cases rest with
        | nil => rfl
        | cons b rest => simp [List.isPrefixOf, eq_comm]
      rw [locate, hhere]
      rfl
  | literal separator hasChar =>
      rw [← Option.some.inj hd]
      rfl
  | pattern p cuts => exact absurd hd (by simp [separator?])
  | chunk length positive => exact absurd hd (by simp [separator?])
  | charClass k => exact absurd hd (by simp [separator?])

/-- **The boundary is the first occurrence** of the delimiter's text. -/
theorem locate_eq_some_iff (hd : d.separator? = some sep) {e : Nat} :
    d.locate text start = some (s, e)
      ↔ start ≤ s ∧ e = s + sep.length ∧ sep <+: text.drop s
        ∧ ∀ q, start ≤ q → q < s → ¬ sep <+: text.drop q := by
  simp only [locate_of_separator? hd, Option.map_eq_some_iff, Prod.mk.injEq,
    seek_drop_eq_some_iff (isPrefixOf_nil_of_separator? hd), List.isPrefixOf_iff_prefix,
    ← Bool.not_eq_true]
  constructor
  · rintro ⟨s', ⟨hle, hhere, hbefore⟩, rfl, rfl⟩
    exact ⟨hle, rfl, hhere, hbefore⟩
  · rintro ⟨hle, rfl, hhere, hbefore⟩
    exact ⟨s, ⟨hle, hhere, hbefore⟩, rfl, rfl⟩

/-- **There is no boundary** exactly if the delimiter's text does not occur. -/
theorem locate_eq_none_iff (hd : d.separator? = some sep) :
    d.locate text start = none ↔ ∀ q, start ≤ q → ¬ sep <+: text.drop q := by
  simp only [locate_of_separator? hd, Option.map_eq_none_iff,
    seek_drop_eq_none_iff (isPrefixOf_nil_of_separator? hd), ← Bool.not_eq_true,
    List.isPrefixOf_iff_prefix]

/-- The text before the first boundary does not hold the separator. -/
theorem not_infix_take (hd : d.separator? = some sep) {e : Nat}
    (h : d.locate text 0 = some (s, e)) : ¬ sep <:+: text.take s := by
  obtain ⟨-, -, -, hbefore⟩ := (locate_eq_some_iff hd).1 h
  rintro ⟨front, behind, heq⟩
  have hlt : front.length < s := by
    have hlen := congrArg List.length heq
    have hpos := List.length_pos_of_ne_nil (separator?_ne_nil hd)
    rw [List.length_append, List.length_append, List.length_take] at hlen
    omega
  have hpre : (text.take s).drop front.length <+: text.drop front.length :=
    List.IsPrefix.drop (List.take_prefix s text) _
  rw [← heq, List.append_assoc, List.drop_left] at hpre
  exact hbefore front.length (Nat.zero_le _) hlt ((List.prefix_append _ _).trans hpre)

/-- A text that does not hold the separator has no boundary. -/
lemma locate_eq_none_of_not_infix (hd : d.separator? = some sep) (h : ¬ sep <:+: text) :
    d.locate text start = none :=
  (locate_eq_none_iff hd).2 fun q _ hp => h (hp.isInfix.trans (List.drop_suffix q text).isInfix)

/-! ## Texts with the separator behind them -/

/-- With the separator behind it, a text holds that separator nowhere earlier, not even in part. -/
def Closes (sep t : List Char) : Prop := ∀ q < t.length, ¬ sep <+: (t ++ sep).drop q

omit [PatternSearch] in
/-- For a single character it is enough that the text does not hold it. -/
lemma closes_singleton {c : Char} {t : List Char} (h : c ∉ t) : Closes [c] t := by
  intro q hq hp
  rw [List.drop_append_of_le_length (Nat.le_of_lt hq)] at hp
  rcases hd : t.drop q with _ | ⟨b, rest⟩
  · rw [List.drop_eq_nil_iff] at hd
    omega
  · rw [hd, List.cons_append, List.cons_prefix_cons] at hp
    have hb : b ∈ t.drop q := by
      rw [hd]
      exact List.mem_cons_self
    exact h (hp.1 ▸ List.mem_of_mem_drop hb)

/-- Behind a text that it closes, the separator is the first boundary, whatever follows. -/
theorem locate_append (hd : d.separator? = some sep) {t : List Char} (ht : Closes sep t)
    (rest : List Char) :
    d.locate (t ++ sep ++ rest) 0 = some (t.length, t.length + sep.length) := by
  refine (locate_eq_some_iff hd).2 ⟨Nat.zero_le _, rfl, ?_, fun q _ hq hp => ht q hq ?_⟩
  · rw [List.append_assoc, List.drop_left]
    exact List.prefix_append _ _
  · have hlen : q ≤ (t ++ sep).length := by
      rw [List.length_append]
      omega
    rw [List.drop_append_of_le_length hlen] at hp
    refine List.prefix_of_prefix_length_le hp (List.prefix_append _ rest) ?_
    rw [List.length_drop, List.length_append]
    omega

end TextSplit.Delimiter
