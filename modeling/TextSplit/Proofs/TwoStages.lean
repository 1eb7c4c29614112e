import TextSplit.Proofs.Restart

/-!
# Splitting in two stages

A limit leaves the rest of the text in its last token.  If that token is split in turn, without a
limit, the other tokens come out: nothing is lost by stopping early, and nothing is cut differently
by starting again.  This needs that nothing is trimmed, since the rest of the text is trimmed at its
start, and that the delimiter is no pattern, which might look at the text before the rest.

* `Completes` — tokens that become others when the last one is split.
* `Completes.last`, `Completes.cons` — a single text, and one token more before others.
* `tokensFrom_of_piece` — a token that a boundary ends is split into itself.
* **`completes_tokensFrom`** — the tokens under a limit become those without one, by recursion on the
  text.
* **`tokens_completed`** — the same for a splitter and its limited form.
-/

namespace TextSplit.Splitter

section Search

variable [PatternSearch] {s : Splitter}

/-- Splitting the last one of some tokens gives all tokens; without any there are none at all. -/
structure Completes (s : Splitter) (tokens all : List (List Char)) : Prop where
  nothing : tokens = [] → all = []
  split_last : ∀ h : tokens ≠ [], all = tokens.dropLast ++ s.tokensFrom (tokens.getLast h) 0 none

namespace Completes

variable {tokens all : List (List Char)} {token : List Char}

lemma nil : s.Completes [] [] where
  nothing _ := rfl
  split_last h := absurd rfl h

lemma last (text : List Char) : s.Completes [text] (s.tokensFrom text 0 none) where
  nothing h := absurd h (List.cons_ne_nil _ _)
  split_last _ := rfl

/-- A token that is not split any further may stand before the others. -/
lemma cons (htoken : s.tokensFrom token 0 none = [token]) (h : s.Completes tokens all) :
    s.Completes (token :: tokens) (token :: all) where
  nothing hnil := absurd hnil (List.cons_ne_nil _ _)
  split_last _ := by
    by_cases hnil : tokens = []
    · subst hnil
      rw [h.nothing rfl, List.getLast_singleton, htoken]
      rfl
    · rw [List.dropLast_cons_of_ne_nil hnil, List.getLast_cons hnil, List.cons_append,
        ← h.split_last hnil]

end Completes

/-- A piece that a boundary ends is its only token, if it is kept. -/
lemma tokensFrom_of_piece (hd : ¬ s.delimiter.IsPattern) (ht : s.trimmer = none)
    {text : List Char} {a b : Nat} (hl : s.delimiter.locate text 0 = some (a, b))
    (hk : s.keeps (0, a) = true) : s.tokensFrom (text.take a) 0 none = [text.take a] := by
  have hle := Delimiter.le_of_locate hl
  have hlen : (text.take a).length = a := List.length_take_of_le (hle.2.1.trans hle.2.2)
  rw [tokensFrom_untrimmed hd ht, Delimiter.locate_take hd hl, hlen]
  exact if_pos hk

/-- A boundary leaves less of the text. -/
lemma length_drop_lt (hd : ¬ s.delimiter.IsPattern) {text : List Char} {a b : Nat}
    (hl : s.delimiter.locate text 0 = some (a, b)) : (text.drop b).length < text.length := by
  have hle := Delimiter.le_of_locate hl
  have hpos : b ≠ 0 := by
    rintro rfl
    obtain rfl : a = 0 := Nat.le_zero.1 hle.2.1
    exact hd (Delimiter.isPattern_of_locate_self hl)
  rw [List.length_drop]
  omega

/-- **Stopping and going on.**  The recursion follows the scan.  A piece that is dropped is dropped from
both sides; at the limit the rest of the text is the last token, and what it is split into is what the
other side goes on with. -/
theorem completes_tokensFrom (hd : ¬ s.delimiter.IsPattern) (ht : s.trimmer = none)
    (text : List Char) {k : Nat} (hk : 0 < k) :
    s.Completes (s.tokensFrom text 0 (some k)) (s.tokensFrom text 0 none) := by
  rw [tokensFrom_untrimmed hd ht text (some k)]
  rcases hl : s.delimiter.locate text 0 with _ | ⟨a, b⟩
  · have hwhole := tokensFrom_untrimmed hd ht text none
    rw [hl] at hwhole
    rw [hwhole]
    by_cases hkeep : s.keeps (0, text.length) = true
    · simp only [if_pos hkeep] at hwhole ⊢
      exact .cons hwhole .nil
    · simp only [if_neg hkeep]
      exact .nil
  · have hless := length_drop_lt hd hl
    have hwhole := tokensFrom_untrimmed hd ht text none
    rw [hl] at hwhole
    by_cases hkeep : s.keeps (0, a) = true
    · by_cases hlast : some k = some 1
      · simp only [if_pos hkeep, if_pos hlast]
        exact .last text
      · have hleft : 0 < k - 1 := by
          rw [Option.some.injEq] at hlast
          omega
        simp only [if_pos hkeep, if_neg hlast] at hwhole ⊢
        rw [hwhole]
        exact .cons (tokensFrom_of_piece hd ht hl hkeep)
          (completes_tokensFrom hd ht (text.drop b) hleft)
    · simp only [if_neg hkeep] at hwhole ⊢
      rw [hwhole]
      exact completes_tokensFrom hd ht (text.drop b) hk
termination_by text.length
decreasing_by all_goals exact hless

/-- **Two stages come to one.**  Take a splitter that cuts at anything but a pattern, trims nothing and
has no limit, whether it drops empty tokens or not, and give it any limit.  The tokens under the limit,
with the last one split without it, are the tokens without a limit; and if there are none under the
limit, there are none at all. -/
theorem tokens_completed (hd : ¬ s.delimiter.IsPattern) (ht : s.trimmer = none)
    (hl : s.limit = none) (text : List Char) (k : Limit) :
    let stage := (s.limited k).tokens text
    (∀ h : stage ≠ [], s.tokens text = stage.dropLast ++ s.tokens (stage.getLast h))
      ∧ (stage = [] → s.tokens text = []) := by
  have hall : ∀ text, s.tokens text = s.tokensFrom text 0 none := by
    intro text
    rw [tokens, hl, Option.map_none]
  have h := completes_tokensFrom hd ht text k.2
  simp only [tokens_of_limited, hall]
  exact ⟨h.split_last, h.nothing⟩

end Search

/-- Before the first token and between the first two, empty pieces are dropped; the separators overlap
letters of the first token.  The second token under the limit is two tokens without it. -/
theorem tokens_completed_double_a :
    let s := (plain (.literal ['a', 'a'] (by decide))).droppingEmpty
    let stage := (s.limited ⟨2, by decide⟩).tokens "aaabaaaacaad".toList
    stage = ["ab".toList, "caad".toList]
      ∧ s.tokens "aaabaaaacaad".toList = "ab".toList :: s.tokens "caad".toList
      ∧ s.tokens "caad".toList = ["c".toList, "d".toList] := by
  intro s stage
  have hstage : stage = ["ab".toList, "caad".toList] := by decide +kernel
  have hne : stage ≠ [] := by
    rw [hstage]
    exact List.cons_ne_nil _ _
  have hall := (tokens_completed (s := s) not_false rfl rfl "aaabaaaacaad".toList ⟨2, by decide⟩).1 hne
  refine ⟨hstage, ?_, by decide +kernel⟩
  rw [hall]
  simp only [show (s.limited ⟨2, by decide⟩).tokens "aaabaaaacaad".toList = _ from hstage]
  rfl

end TextSplit.Splitter
