import TextSplit.Proofs.Joining
import Mathlib.Order.Bounds.Defs

/-!
# When splitting undoes joining

`tokens_intercalate` has a condition: every text but the last one closes the separator behind it, and
the last one does not hold it.  This file shows that nothing weaker would do.  A separator of several
characters can begin at the end of a text and finish inside the separator that was put behind it, so it
is not enough that no text holds it.

* `Delimiter.closes_iff_isLeast` — closing the separator, said with its first occurrence.
* `Separable` — the condition on a list of texts; `separable_singleton_iff` for a single character.
* **`Splitter.separable_tokens`** — the tokens of every text meet it, by recursion on the text.
* **`Splitter.tokens_intercalate_iff`** — splitting gives joined texts back exactly if they meet it.
* **`Splitter.split_join`** — both, for the separator that a caller gives.
-/

namespace TextSplit

namespace Delimiter

variable {sep t text : List Char} {a : Nat}

/-- A text closes the separator behind it exactly if its end is the first place where that separator
stands. -/
lemma closes_iff_isLeast :
    Closes sep t ↔ IsLeast {q | sep <+: (t ++ sep).drop q} t.length := by
  constructor
  · intro h
    refine ⟨?_, fun q hq => ?_⟩
    · show sep <+: (t ++ sep).drop t.length
      rw [List.drop_left]
    · rcases Nat.lt_or_ge q t.length with hlt | hge
      · exact absurd hq (h q hlt)
      · exact hge
  · intro h q hlt hq
    exact absurd (h.2 hq) (Nat.not_le.2 hlt)

/-- For a single character it is the same that the text does not hold it. -/
lemma closes_singleton_iff {c : Char} : Closes [c] t ↔ c ∉ t := by
  refine ⟨fun h hc => ?_, closes_singleton⟩
  obtain ⟨front, behind, rfl⟩ := List.append_of_mem hc
  refine h front.length (by simp) ?_
  rw [List.append_assoc, List.drop_left]
  exact List.prefix_append [c] (behind ++ [c])

/-- A text that holds the separator has a place where it stands. -/
lemma exists_drop_of_infix (h : sep <:+: text) : ∃ q, sep <+: text.drop q := by
  obtain ⟨front, behind, rfl⟩ := h
  refine ⟨front.length, ?_⟩
  rw [List.append_assoc, List.drop_left]
  exact List.prefix_append sep behind

/-- What stands before the first separator closes it. -/
lemma closes_take (hfound : sep <+: text.drop a) (hle : a ≤ text.length)
    (hfirst : ∀ q < a, ¬ sep <+: text.drop q) : Closes sep (text.take a) := by
  have hlen : (text.take a).length = a := List.length_take_of_le hle
  intro q hq hp
  rw [hlen] at hq
  refine hfirst q hq (hp.trans (List.IsPrefix.drop ?_ q))
  -- the text before the separator and the separator together start the text
  obtain ⟨behind, hbehind⟩ := hfound
  refine ⟨behind, ?_⟩
  rw [List.append_assoc, hbehind, List.take_append_drop]

end Delimiter

/-- Texts that can be told apart once they are joined: in every one but the last, with the separator
behind it, that separator stands first where the text ends, and the last one does not hold it. -/
structure Separable (sep : List Char) (ts : List (List Char)) : Prop where
  others : ∀ t ∈ ts.dropLast, IsLeast {q | sep <+: (t ++ sep).drop q} t.length
  last : ∀ t ∈ ts.getLast?, ¬ sep <:+: t

namespace Separable

variable {sep t : List Char} {ts : List (List Char)}

lemma singleton (h : ¬ sep <:+: t) : Separable sep [t] where
  others u hu := absurd hu List.not_mem_nil
  last u hu := by
    rw [List.getLast?_singleton, Option.mem_some_iff] at hu
    exact hu ▸ h

lemma cons (hne : ts ≠ []) (ht : Delimiter.Closes sep t) (h : Separable sep ts) :
    Separable sep (t :: ts) where
  others u hu := by
    rw [List.dropLast_cons_of_ne_nil hne] at hu
    rcases List.mem_cons.1 hu with rfl | hu
    · exact Delimiter.closes_iff_isLeast.1 ht
    · exact h.others u hu
  last u hu := by
    obtain ⟨v, vs, rfl⟩ := List.exists_cons_of_ne_nil hne
    rw [List.getLast?_cons_cons] at hu
    exact h.last u hu

end Separable

/-- Texts can be told apart at a single character exactly if none of them holds it. -/
lemma separable_singleton_iff {c : Char} {ts : List (List Char)} :
    Separable [c] ts ↔ ∀ t ∈ ts, c ∉ t := by
  constructor
  · intro h t ht
    by_cases hlast : some t = ts.getLast?
    · exact fun hc => h.last t hlast.symm ((List.singleton_infix_iff c t).2 hc)
    · have hother := List.mem_dropLast_of_mem_of_ne_getLast? ht hlast
      exact Delimiter.closes_singleton_iff.1 (Delimiter.closes_iff_isLeast.2 (h.others t hother))
  · intro h
    refine ⟨fun t ht => Delimiter.closes_iff_isLeast.1 ?_, fun t ht hc => ?_⟩
    · exact Delimiter.closes_singleton (h t (List.mem_of_mem_dropLast ht))
    · exact h t (List.mem_of_getLast? ht) ((List.singleton_infix_iff c t).1 hc)

namespace Splitter

variable [PatternSearch] {d : Delimiter} {sep : List Char}

/-- **Tokens can be told apart.**  Every text has a token, and its tokens can be joined and split
again.  The recursion follows the scan: the first separator ends the first token, which closes it, and
what lies behind it is a shorter text. -/
theorem separable_tokens (hd : d.separator? = some sep) (text : List Char) :
    (plain d).tokens text ≠ [] ∧ Separable sep ((plain d).tokens text) := by
  have hrec := tokensFrom_of_locate (s := plain d) (Delimiter.not_isPattern_of_separator? hd)
    ⟨rfl, rfl⟩ text none (by simp)
  rw [show (plain d).delimiter = d from rfl] at hrec
  rcases hl : d.locate text 0 with _ | ⟨a, b⟩
  · rw [hl] at hrec
    rw [show (plain d).tokens text = [text] from hrec]
    refine ⟨List.cons_ne_nil _ _, Separable.singleton fun hin => ?_⟩
    obtain ⟨q, hq⟩ := Delimiter.exists_drop_of_infix hin
    exact (Delimiter.locate_eq_none_iff hd).1 hl q (Nat.zero_le q) hq
  · rw [hl] at hrec
    obtain ⟨-, rfl, hfound, hfirst⟩ := (Delimiter.locate_eq_some_iff hd).1 hl
    have hle := Delimiter.le_of_locate hl
    have hpos := List.length_pos_of_ne_nil (Delimiter.separator?_ne_nil hd)
    obtain ⟨hne, hbehind⟩ := separable_tokens hd (text.drop (a + sep.length))
    rw [show (plain d).tokens text
      = text.take a :: (plain d).tokens (text.drop (a + sep.length)) from hrec]
    exact ⟨List.cons_ne_nil _ _, hbehind.cons hne
      (Delimiter.closes_take hfound (by omega) fun q => hfirst q (Nat.zero_le q))⟩
termination_by text.length
decreasing_by
  rw [List.length_drop]
  omega

/-- **Splitting undoes joining exactly when it can.** -/
theorem tokens_intercalate_iff (hd : d.separator? = some sep) {ts : List (List Char)}
    (hne : ts ≠ []) : (plain d).tokens (sep.intercalate ts) = ts ↔ Separable sep ts := by
  constructor
  · intro h
    rw [← h]
    exact (separable_tokens hd _).2
  · intro h
    exact tokens_intercalate hd hne (fun t ht => Delimiter.closes_iff_isLeast.2 (h.others t ht))
      h.last

/-- **Splitting and joining.**  A separator that is not empty gives a splitter.  It gives the texts of a
list back from their joined text exactly if they can be told apart; for a separator of one character
that is, exactly if none of them holds it.  The tokens of any text are such a list. -/
theorem split_join {sep : String} (h : sep ≠ "") :
    ∃ s, Splitter.on (.text sep) = .ok s
      ∧ (∀ ts, ts ≠ [] →
        (s.tokens (sep.toList.intercalate ts) = ts ↔ Separable sep.toList ts))
      ∧ (∀ c, sep.toList = [c] → ∀ ts, ts ≠ [] →
        (s.tokens ([c].intercalate ts) = ts ↔ ∀ t ∈ ts, c ∉ t))
      ∧ ∀ text, s.tokens text ≠ [] ∧ Separable sep.toList (s.tokens text) := by
  obtain ⟨d, hon, hd⟩ := PairSplitter.on_text h
  refine ⟨plain d, hon, fun ts hne => tokens_intercalate_iff hd hne, fun c hc ts hne => ?_,
    separable_tokens hd⟩
  rw [hc] at hd
  rw [tokens_intercalate_iff hd hne, separable_singleton_iff]

end Splitter

/-- No text of the second list holds two colons, but one of them ends with a colon: joined, the two
lists are the same text, and only the first one comes back. -/
theorem Splitter.split_join_colons :
    "::" ≠ "" ∧ ∃ s, Splitter.on (.text "::") = .ok s
      ∧ s.tokens "a:::b".toList = ["a".toList, ":b".toList]
      ∧ ¬ Separable "::".toList ["a:".toList, "b".toList] := by
  refine ⟨by decide, ?_⟩
  obtain ⟨s, hs, hiff, -, -⟩ := split_join (show "::" ≠ "" by decide)
  have htokens : s.tokens "a:::b".toList = ["a".toList, ":b".toList] := by
    refine (hiff ["a".toList, ":b".toList] (by decide)).2 ⟨fun t ht => ?_, fun t ht => ?_⟩
    · obtain rfl : t = ['a'] := List.mem_singleton.1 ht
      exact Delimiter.closes_iff_isLeast.1 (by unfold Delimiter.Closes; decide)
    · obtain rfl : [':', 'b'] = t := Option.some.inj ht
      decide
  refine ⟨s, hs, htokens, fun hsep => ?_⟩
  have hback := (hiff ["a:".toList, "b".toList] (by decide)).2 hsep
  exact absurd (hback.symm.trans htokens) (by decide)

end TextSplit
