import TextSplit.Proofs.Boundary
import TextSplit.Proofs.Scan

/-!
# Cutting starts afresh behind a boundary

Places count from the beginning of the text, however far the scan has come.  Unless the delimiter is
a pattern, which may look at what lies before its match, the scan does not care: from a place on it
does what it would do with the rest of the text alone, only with all places moved.  Tokens are texts
and not places, so they are not even moved.

* `shift`, `Cut.shift` — spans and pieces moved to the right.
* **`locate_drop`**, `cut_drop`, `cutsFrom_drop` — boundaries and pieces of a text, from those of its
  tail.
* **`tokensFrom_drop`** — the tokens from a place on are the tokens of the tail.
* **`tokensFrom_untrimmed`** — where nothing is trimmed, the tokens of a text by recursion on its tails;
  `tokensFrom_of_locate`, `tokensFrom_last` are the cases where nothing is dropped either.
-/

namespace TextSplit

/-- A span moved to the right. -/
def shift (n : Nat) (span : Nat × Nat) : Nat × Nat := (n + span.1, n + span.2)

/-- A piece moved to the right. -/
def Cut.shift (n : Nat) (c : Cut) : Cut := ⟨n + c.start, n + c.stop, c.next.map (n + ·)⟩

variable {text : List Char} {n start : Nat}

/-- A stretch of the tail is a stretch of the text. -/
lemma stretch_drop (text : List Char) (n a b : Nat) :
    stretch text (n + a) (n + b) = stretch (text.drop n) a b := by
  rw [stretch, stretch, List.drop_drop, Nat.add_sub_add_left]

/-- Trimming a stretch of the tail is trimming that stretch of the text. -/
lemma trimSpan_drop (trimmer : Option CharClass) (text : List Char) (n a b : Nat) :
    trimSpan trimmer text (n + a) (n + b) = shift n (trimSpan trimmer (text.drop n) a b) := by
  cases trimmer with
  | none => rfl
  | some k =>
      have hstart : k.trimStart text (n + a) (n + b) = n + k.trimStart (text.drop n) a b := by
        rw [CharClass.trimStart, CharClass.trimStart, stretch_drop, Nat.add_assoc]
      have hrun := k.length_run_reverse_le (text.drop n) (k.trimStart (text.drop n) a b) b
      simp only [trimSpan, shift, hstart, CharClass.trimEnd, stretch_drop, Prod.mk.injEq, true_and]
      omega

/-- Trimming the right end alone does not look before the place where it starts either. -/
lemma trimSpanEnd_drop (trimmer : Option CharClass) (text : List Char) (n a b : Nat) :
    trimSpanEnd trimmer text (n + a) (n + b) = n + trimSpanEnd trimmer (text.drop n) a b := by
  cases trimmer with
  | none => rfl
  | some k =>
      have hrun := k.length_run_reverse_le (text.drop n) a b
      simp only [trimSpanEnd, CharClass.trimEnd, stretch_drop]
      omega

/-- Spans that are moved render as the same tokens. -/
lemma render_shift (trimmer : Option CharClass) (hn : n ≤ text.length) (left : Option Nat)
    (spans : List (Nat × Nat)) :
    render trimmer text left (spans.map (shift n)) = render trimmer (text.drop n) left spans := by
  have hlen : text.length = n + (text.drop n).length := by
    rw [List.length_drop]
    omega
  induction spans generalizing left with
  | nil => rfl
  | cons span rest ih =>
      rw [List.map_cons, render, render]
      split_ifs
      · rw [shift, hlen, trimSpanEnd_drop, stretch_drop]
      · rw [ih, spanText, shift, stretch_drop, spanText]

namespace Delimiter

/-- A search whose places are moved finds the same place, moved. -/
lemma seek_add (here : List Char → Bool) (rest : List Char) (n pos : Nat) :
    seek here rest (n + pos) = (seek here rest pos).map (n + ·) := by
  induction rest generalizing pos with
  | nil =>
      rw [seek, seek]
      split_ifs <;> rfl
  | cons c rest ih =>
      rw [seek, seek]
      split_ifs
      · rfl
      · rw [Nat.add_assoc, ih]

variable [PatternSearch] {d : Delimiter}

/-- **Boundaries of a tail.**  Unless the delimiter is a pattern, the boundary at or behind a place is
found in the rest of the text alone. -/
theorem locate_drop (hd : ¬ d.IsPattern) (text : List Char) (n start : Nat) :
    d.locate text (n + start) = (d.locate (text.drop n) start).map (shift n) := by
  have hdrop : text.drop (n + start) = (text.drop n).drop start := by
    rw [List.drop_drop]
  cases d with
  | char c =>
      rw [locate, locate, hdrop, seek_add, Option.map_map, Option.map_map]
      rfl
  | literal separator hasChar =>
      rw [locate, locate, hdrop, seek_add, Option.map_map, Option.map_map]
      refine Option.map_congr fun s _ => ?_
      exact Prod.ext rfl (Nat.add_assoc n s separator.length)
  | pattern p cuts => exact absurd trivial hd
  | chunk length positive =>
      simp only [locate, List.length_drop]
      split_ifs
      · rw [Option.map_some, shift, Nat.add_assoc]
      · omega
      · omega
      · rfl
  | charClass k =>
      rw [locate, locate, hdrop, seek_add, Option.map_map, Option.map_map]
      rfl

/-- The piece that starts at a place is a piece of the tail, moved. -/
lemma cut_drop (hd : ¬ d.IsPattern) (hn : n ≤ text.length) (start : Nat) :
    d.cut text (n + start) = (d.cut (text.drop n) start).map (Cut.shift n) := by
  rw [cut_of_not_isPattern hd, cut_of_not_isPattern hd, locate_drop hd]
  rcases d.locate (text.drop n) start with _ | ⟨s, e⟩
  · simp only [Option.map_none, Option.map_some, Cut.shift, List.length_drop, Option.some.injEq,
      Cut.mk.injEq, and_true, true_and]
    omega
  · rfl

/-- The pieces from a place on are those of the tail, moved. -/
lemma cutsFrom_drop (hd : ¬ d.IsPattern) (hn : n ≤ text.length) (start : Nat) :
    d.cutsFrom text (n + start) = (d.cutsFrom (text.drop n) start).map (Cut.shift n) := by
  induction start using cutsFrom.induct d (text.drop n) with
  | case1 start hc =>
      rw [cutsFrom_eq, cutsFrom_eq, cut_drop hd hn, hc]
      rfl
  | case2 start c hc hnone =>
      rw [cutsFrom_eq, cutsFrom_eq, cut_drop hd hn, hc]
      simp only [Option.map_some, Cut.shift, hnone, Option.map_none, cutsBehind, List.map_cons,
        List.map_nil]
  | case3 start c hc m hm ih =>
      rw [cutsFrom_eq, cutsFrom_eq d (text.drop n), cut_drop hd hn, hc]
      simp only [Option.map_some, Cut.shift, hm, cutsBehind, List.map_cons, ih]

end Delimiter

namespace Splitter

variable [PatternSearch] {s : Splitter}

/-- The kept spans from a place on are those of the tail, moved. -/
lemma spansFrom_drop (hd : ¬ s.delimiter.IsPattern) (hn : n ≤ text.length) (start : Nat) :
    s.spansFrom text (n + start) = (s.spansFrom (text.drop n) start).map (shift n) := by
  have hspan : s.span text ∘ Cut.shift n = shift n ∘ s.span (text.drop n) := by
    funext c
    exact trimSpan_drop s.trimmer text n c.start c.stop
  have hkeeps : s.keeps ∘ shift n = s.keeps := by
    funext span
    have hends : (n + span.1 == n + span.2) = (span.1 == span.2) := by
      rw [Bool.eq_iff_iff, beq_iff_eq, beq_iff_eq, Nat.add_left_cancel_iff]
    rw [Function.comp_apply, keeps, keeps, shift, hends]
  rw [spansFrom, spansFrom, Delimiter.cutsFrom_drop hd hn, List.map_map, hspan, ← List.map_map,
    List.filter_map, hkeeps]

/-- **Starting afresh.**  Unless the delimiter is a pattern, the tokens from a place on are those of
the rest of the text, under whatever is left of the limit. -/
theorem tokensFrom_drop (hd : ¬ s.delimiter.IsPattern) (hn : n ≤ text.length)
    (left : Option Nat) : s.tokensFrom text n left = s.tokensFrom (text.drop n) 0 left := by
  rw [tokensFrom_eq_render, tokensFrom_eq_render, ← render_shift s.trimmer hn,
    ← spansFrom_drop hd hn, Nat.add_zero]

/-! ## Splitters that trim nothing -/

/-- **Recursion on the text.**  Unless the delimiter is a pattern, and if nothing is trimmed, the first
boundary ends the first piece, and the tokens behind it are those of the text behind the boundary.
Without a boundary the text is one piece. -/
theorem tokensFrom_untrimmed (hd : ¬ s.delimiter.IsPattern) (ht : s.trimmer = none)
    (text : List Char) (left : Option Nat) :
    s.tokensFrom text 0 left
      = match s.delimiter.locate text 0 with
        | none => if s.keeps (0, text.length) then [text] else []
        | some (a, b) =>
          if s.keeps (0, a) then
            if left = some 1 then [text]
            else text.take a :: s.tokensFrom (text.drop b) 0 (left.map (· - 1))
          else s.tokensFrom (text.drop b) 0 left := by
  have hcut := Delimiter.cut_of_not_isPattern hd text 0
  rcases hloc : s.delimiter.locate text 0 with _ | ⟨a, b⟩
  · rw [hloc] at hcut
    rw [tokensFrom_of_cut hcut, span, ht]
    simp only [trimSpan, trimSpanEnd, tokensBehind, spanText, stretch_to_length, List.drop_zero,
      ite_self]
  · rw [hloc] at hcut
    have hle := Delimiter.le_of_locate hloc
    rw [tokensFrom_of_cut hcut, span, ht]
    simp only [trimSpan, trimSpanEnd, tokensBehind, spanText, stretch_to_length, List.drop_zero]
    rw [tokensFrom_drop hd hle.2.2, tokensFrom_drop hd hle.2.2]
    rfl

/-- Nothing is trimmed off a piece, and none is dropped. -/
structure KeepsAll (s : Splitter) : Prop where
  trims : s.trimmer = none
  drops : s.omitEmpty = false

omit [PatternSearch] in
lemma KeepsAll.keeps (hs : s.KeepsAll) (span : Nat × Nat) : s.keeps span = true := by
  simp [Splitter.keeps, hs.drops]

/-- The last token that the limit allows is the whole text. -/
lemma tokensFrom_last (hd : ¬ s.delimiter.IsPattern) (hs : s.KeepsAll) (text : List Char) :
    s.tokensFrom text 0 (some 1) = [text] := by
  rw [tokensFrom_untrimmed hd hs.trims]
  rcases s.delimiter.locate text 0 with _ | ⟨a, b⟩
  · exact if_pos (hs.keeps _)
  · exact (if_pos (hs.keeps _)).trans (if_pos rfl)

/-- Before the last token, the first boundary ends the first token, and the other tokens are those of
the text behind it.  Without a boundary there is one token. -/
theorem tokensFrom_of_locate (hd : ¬ s.delimiter.IsPattern) (hs : s.KeepsAll) (text : List Char)
    (left : Option Nat) (hl : left ≠ some 1) :
    s.tokensFrom text 0 left
      = match s.delimiter.locate text 0 with
        | none => [text]
        | some (a, b) => text.take a :: s.tokensFrom (text.drop b) 0 (left.map (· - 1)) := by
  rw [tokensFrom_untrimmed hd hs.trims]
  rcases s.delimiter.locate text 0 with _ | ⟨a, b⟩
  · exact if_pos (hs.keeps _)
  · exact (if_pos (hs.keeps _)).trans (if_neg hl)

end Splitter

end TextSplit
