import TextSplit.Proofs.Pipeline

/-!
# What a limit does

Under a limit the loop counts down, but only when it hands out a token, and for the last one it
rewrites the right end of a span that has been trimmed already.  Here the limited run is compared
with the unlimited one: they agree up to the last token, and that one holds the rest of the text.

* `render_of_length_lt`, `render_of_le_length` — a limit that is not reached, and one that is.
* **`tokens_limited`** — the law, for every splitter, text and limit.
-/

namespace TextSplit

section Render

variable {trimmer : Option CharClass} {text : List Char}

/-- A limit that is not reached changes nothing. -/
lemma render_of_length_lt {k : Nat} {spans : List (Nat × Nat)} (h : spans.length < k) :
    render trimmer text (some k) spans = spans.map (spanText text) := by
  induction spans generalizing k with
  | nil => rfl
  | cons span rest ih =>
      rw [List.length_cons] at h
      have hk : some k ≠ some 1 := by
        rw [ne_eq, Option.some.injEq]
        omega
      rw [render, if_neg hk, Option.map_some, ih (by omega), List.map_cons]

/-- A limit that is reached leaves the spans before it alone.  The token at the limit starts where
its span starts and runs to the end of the text. -/
lemma render_of_le_length (trimmer : Option CharClass) (text : List Char) {k : Nat}
    {spans : List (Nat × Nat)} (hk : 0 < k) (h : k ≤ spans.length) :
    ∃ first last, spans[k - 1]? = some (first, last)
      ∧ render trimmer text (some k) spans
        = (spans.take (k - 1)).map (spanText text)
          ++ [stretch text first (trimSpanEnd trimmer text first text.length)] := by
  induction spans generalizing k with
  | nil =>
      rw [List.length_nil] at h
      omega
  | cons span rest ih =>
      rw [List.length_cons] at h
      rcases Nat.eq_or_lt_of_le (show 1 ≤ k from hk) with rfl | hlt
      · refine ⟨span.1, span.2, rfl, ?_⟩
        rw [render, if_pos rfl]
        rfl
      · have hne : some k ≠ some 1 := by
          rw [ne_eq, Option.some.injEq]
          omega
        obtain ⟨first, last, hget, hrender⟩ := ih (k := k - 1) (by omega) (by omega)
        refine ⟨first, last, ?_, ?_⟩
        · rw [show k - 1 = (k - 1 - 1) + 1 by omega, List.getElem?_cons_succ]
          exact hget
        · rw [render, if_neg hne, Option.map_some, hrender]
          conv_rhs => rw [show k - 1 = (k - 1 - 1) + 1 by omega]
          rw [List.take_succ_cons, List.map_cons, List.cons_append]

end Render

namespace Splitter

variable [PatternSearch]

/-- **The limit law.**  Let `u` be the tokens of the same splitter without a limit, which are the
texts of its kept spans.  If there are fewer than the limit allows, the limit changes nothing.
Otherwise the tokens before the last slot are those of `u`, and the last one is the text from the
place where the next token of `u` starts, stripped on the right alone.  The spans are those that
are kept, so a piece that is dropped never uses up a token. -/
theorem tokens_limited (s : Splitter) (text : List Char) (k : Limit) :
    let u := ({ s with limit := none } : Splitter).tokens text
    u = (s.spans text).map (spanText text)
      ∧ (u.length < k.1 → (s.limited k).tokens text = u)
      ∧ (k.1 ≤ u.length →
          ∃ first last, (s.spans text)[k.1 - 1]? = some (first, last)
            ∧ (s.limited k).tokens text
              = u.take (k.1 - 1) ++ [stripEnd s.trimmer (text.drop first)]) := by
  intro u
  have hu : u = (s.spans text).map (spanText text) := tokens_of_limit_eq_none rfl
  have hlen : u.length = (s.spans text).length := by
    rw [hu, List.length_map]
  have hlimited : (s.limited k).tokens text = render s.trimmer text (some k.1) (s.spans text) :=
    tokens_eq_render (s.limited k) text
  rw [hlimited, hlen]
  refine ⟨hu, fun hlt => ?_, fun hle => ?_⟩
  · rw [render_of_length_lt hlt, hu]
  · obtain ⟨first, last, hget, hrender⟩ := render_of_le_length s.trimmer text k.2 hle
    have hin := spans_inside (first, last) (List.mem_of_getElem? hget)
    refine ⟨first, last, hget, ?_⟩
    rw [hrender, hu, ← List.map_take,
      stretch_trimSpanEnd s.trimmer (Nat.le_trans hin.1 hin.2) (Nat.le_refl _),
      stretch_to_length]

end Splitter

end TextSplit
