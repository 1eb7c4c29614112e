import TextSplit.Tokens
import TextSplit.Proofs.Stretch
import Mathlib.Tactic.SplitIfs

/-!
# Scanning, one step at a time

`Splitter.pull` cuts, trims, drops and counts in one loop, and `Splitter.tokensFrom` is a loop
around that loop.  Nothing later wants to unfold either of them.  This file says once what a step
can do, and then replaces the two loops by a list that is computed in separate passes.

* `Delimiter.cutsFrom_eq`, `Splitter.tokensFrom_eq` — the equations of the outer loops.
* `Splitter.pull_of_cut`, `tokensFrom_of_cut` — what one round of the inner loop can do.
* `Splitter.spansFrom` — every piece of the text is cut off, then all pieces are trimmed, then the
  dropped ones are taken out; no limit plays a part in it.
* `render` — the tokens at given spans under a limit.
* **`Splitter.tokensFrom_eq_render`** — the fused loops compute the rendered spans.
-/

namespace TextSplit

/-- The text between the ends of a span. -/
def spanText (text : List Char) (span : Nat × Nat) : List Char := stretch text span.1 span.2

/-- The tokens at given spans.  The last one that the limit allows runs to the end of the text,
and only its right end is trimmed anew. -/
def render (trimmer : Option CharClass) (text : List Char) :
    Option Nat → List (Nat × Nat) → List (List Char)
  | _, [] => []
  | left, span :: rest =>
    if left = some 1 then
      [stretch text span.1 (trimSpanEnd trimmer text span.1 text.length)]
    else
      spanText text span :: render trimmer text (left.map (· - 1)) rest

/-- Without a limit the tokens are the texts of the spans. -/
lemma render_none (trimmer : Option CharClass) (text : List Char) (spans : List (Nat × Nat)) :
    render trimmer text none spans = spans.map (spanText text) := by
  induction spans with
  | nil => rfl
  | cons span rest ih =>
      rw [render, if_neg (by simp), Option.map_none, ih, List.map_cons]

namespace Splitter

/-- The ends of a piece after trimming. -/
def span (s : Splitter) (text : List Char) (c : Cut) : Nat × Nat :=
  trimSpan s.trimmer text c.start c.stop

/-- Whether a trimmed piece becomes a token. -/
def keeps (s : Splitter) (span : Nat × Nat) : Bool := !(s.omitEmpty && span.1 == span.2)

end Splitter

variable [PatternSearch]

namespace Delimiter

/-- The pieces from the next place on, if there is one. -/
def cutsBehind (d : Delimiter) (text : List Char) : Option Nat → List Cut
  | none => []
  | some n => d.cutsFrom text n

/-- The pieces from a place on are the first one and those behind it. -/
theorem cutsFrom_eq (d : Delimiter) (text : List Char) (start : Nat) :
    d.cutsFrom text start
      = match d.cut text start with
        | none => []
        | some c => c :: d.cutsBehind text c.next := by
  rw [cutsFrom]
  split
  · rename_i h
    rw [h]
  · rename_i c h
    rw [h]
    split
    · rename_i hn
      simp only [hn, cutsBehind]
    · rename_i n hn
      simp only [hn, cutsBehind]

end Delimiter

namespace Splitter

variable {s : Splitter} {text : List Char} {start : Nat} {left : Option Nat} {c : Cut}

/-! ## What a pull can do -/

/-- **One round of the loop.**  A piece that is kept becomes the token; one that is dropped is
passed over, and what is left of the limit stays. -/
theorem pull_of_cut (h : s.delimiter.cut text start = some c) :
    s.pull text start left
      = if s.keeps (s.span text c) then
          if left = some 1 then
            some ⟨stretch text (s.span text c).1
              (trimSpanEnd s.trimmer text (s.span text c).1 text.length), none, left⟩
          else
            some ⟨stretch text (s.span text c).1 (s.span text c).2, c.next, left.map (· - 1)⟩
        else
          c.next.bind fun n => s.pull text n left := by
  rw [pull]
  split
  · rename_i hc
    rw [h] at hc
    exact absurd hc (by simp)
  · rename_i c' hc
    rw [h, Option.some.injEq] at hc
    subst hc
    by_cases hk : s.keeps (s.span text c) = true
    · have hd := hk
      rw [keeps, Bool.not_eq_true', span] at hd
      simp only [hd, Bool.false_eq_true, if_false, if_pos hk]
      rfl
    · have hd := hk
      rw [keeps, Bool.not_eq_true', Bool.not_eq_false, span] at hd
      simp only [hd, if_true, if_neg hk]
      split
      · rename_i hn
        rw [hn, Option.bind_none]
      · rename_i n hn
        rw [hn, Option.bind_some]

lemma pull_of_cut_eq_none (h : s.delimiter.cut text start = none) :
    s.pull text start left = none := by
  rw [pull]
  split
  · rfl
  · rename_i c hc
    rw [h] at hc
    exact absurd hc (by simp)

/-! ## From pulls to tokens -/

/-- The tokens from the next place on, if there is one. -/
def tokensBehind (s : Splitter) (text : List Char) : Option Nat → Option Nat → List (List Char)
  | none, _ => []
  | some n, left => s.tokensFrom text n left

/-- The tokens from a place on are the one that is pulled and those behind it. -/
theorem tokensFrom_eq (s : Splitter) (text : List Char) (start : Nat) (left : Option Nat) :
    s.tokensFrom text start left
      = match s.pull text start left with
        | none => []
        | some p => p.token :: s.tokensBehind text p.next p.left := by
  rw [tokensFrom]
  split
  · rename_i h
    rw [h]
  · rename_i p h
    rw [h]
    split
    · rename_i hn
      simp only [hn, tokensBehind]
    · rename_i n hn
      simp only [hn, tokensBehind]

/-- What becomes of the tokens from a place on when the first piece is cut off. -/
lemma tokensFrom_of_cut (h : s.delimiter.cut text start = some c) :
    s.tokensFrom text start left
      = if s.keeps (s.span text c) then
          if left = some 1 then
            [stretch text (s.span text c).1
              (trimSpanEnd s.trimmer text (s.span text c).1 text.length)]
          else
            spanText text (s.span text c) :: s.tokensBehind text c.next (left.map (· - 1))
        else
          s.tokensBehind text c.next left := by
  rw [tokensFrom_eq, pull_of_cut h]
  split_ifs with hk hl
  · rfl
  · rfl
  · cases c.next with
    | none => rfl
    | some n => rw [Option.bind_some, tokensBehind, tokensFrom_eq]

/-! ## The three passes -/

/-- The ends of the pieces that are kept, from a place on: cut, then trimmed, then sifted. -/
def spansFrom (s : Splitter) (text : List Char) (start : Nat) : List (Nat × Nat) :=
  ((s.delimiter.cutsFrom text start).map (s.span text)).filter s.keeps

/-- The ends of the pieces that are kept, from the next place on if there is one. -/
def spansBehind (s : Splitter) (text : List Char) : Option Nat → List (Nat × Nat)
  | none => []
  | some n => s.spansFrom text n

lemma spansFrom_of_cut_eq_none (h : s.delimiter.cut text start = none) :
    s.spansFrom text start = [] := by
  rw [spansFrom, Delimiter.cutsFrom_eq, h]
  rfl

lemma spansFrom_of_cut (h : s.delimiter.cut text start = some c) :
    s.spansFrom text start
      = if s.keeps (s.span text c) then s.span text c :: s.spansBehind text c.next
        else s.spansBehind text c.next := by
  have hbehind : ((s.delimiter.cutsBehind text c.next).map (s.span text)).filter s.keeps
      = s.spansBehind text c.next := by
    cases c.next <;> rfl
  rw [spansFrom, Delimiter.cutsFrom_eq, h]
  simp only [List.map_cons, List.filter_cons, hbehind]

/-- If the tokens behind a piece are its kept spans, rendered, so are those from the piece on. -/
lemma tokensFrom_eq_render_of_cut (hc : s.delimiter.cut text start = some c)
    (ih : ∀ left, s.tokensBehind text c.next left
      = render s.trimmer text left (s.spansBehind text c.next)) (left : Option Nat) :
    s.tokensFrom text start left = render s.trimmer text left (s.spansFrom text start) := by
  rw [tokensFrom_of_cut hc, spansFrom_of_cut hc]
  split_ifs with hk hl
  · rw [render, if_pos hl]
  · rw [render, if_neg hl, ih]
  · exact ih left

/-- **The loops are three passes.**  Pulling the tokens one by one gives the kept spans, rendered
under the limit.  The induction is on the pieces: one that is dropped changes neither side, and
one that is kept uses up one token on both. -/
theorem tokensFrom_eq_render (s : Splitter) (text : List Char) (start : Nat)
    (left : Option Nat) :
    s.tokensFrom text start left = render s.trimmer text left (s.spansFrom text start) := by
  induction start using Delimiter.cutsFrom.induct s.delimiter text generalizing left with
  | case1 start hc =>
      rw [tokensFrom_eq, pull_of_cut_eq_none hc, spansFrom_of_cut_eq_none hc, render]
  | case2 start c hc hn =>
      refine tokensFrom_eq_render_of_cut hc (fun left => ?_) left
      rw [hn, tokensBehind, spansBehind, render]
  | case3 start c hc n hn ih =>
      refine tokensFrom_eq_render_of_cut hc (fun left => ?_) left
      rw [hn, tokensBehind, spansBehind]
      exact ih left

/-- The ends of all pieces of a text that are kept. -/
def spans (s : Splitter) (text : List Char) : List (Nat × Nat) := s.spansFrom text 0

/-- The tokens of a text are its kept spans, rendered under the limit. -/
theorem tokens_eq_render (s : Splitter) (text : List Char) :
    s.tokens text = render s.trimmer text (s.limit.map Subtype.val) (s.spans text) :=
  tokensFrom_eq_render s text 0 _

/-- The limit counts at the start only; from then on it is what is left that counts. -/
lemma tokens_of_limited (s : Splitter) (k : Limit) (text : List Char) :
    (s.limited k).tokens text = s.tokensFrom text 0 (some k.1) := by
  rw [tokens_eq_render, tokensFrom_eq_render]
  rfl

/-- Without a limit they are the texts of these spans. -/
theorem tokens_of_limit_eq_none (hl : s.limit = none) :
    s.tokens text = (s.spans text).map (spanText text) := by
  rw [tokens_eq_render, hl, Option.map_none, render_none]

end Splitter

end TextSplit
