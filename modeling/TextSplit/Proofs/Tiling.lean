import TextSplit.Proofs.Boundary
import TextSplit.Proofs.Scan

/-!
# Pieces and boundaries tile the text

Cutting moves two places: where the piece starts, and where the next boundary is looked for.  An
empty boundary moves the second without the first, and past the end of the text it drops a piece.
This file shows that nothing is lost or doubled on the way.

* `Tiling` — pieces and boundaries that lead from a place to the end of the text without a jump.
  Its three constructors are the three things that can follow a place.
* **`tiling_cutsFrom`** — the pieces that are cut form a tiling.
* `Cut.pieces`, `Cut.gaps` — the spans of the pieces and of the boundaries that end them;
  `alternate` takes two lists in turn.
* `Tiling.flatten_alternate`, `Tiling.pairwise_pieces`, `Tiling.count` and their neighbours — what
  every tiling gives, each by one induction.
* **`plain_tokens_tile`** — the tokens of a plain splitter and the boundaries between them.
-/

namespace TextSplit

/-- Two lists in turn, the first one first. -/
def alternate {α : Type} : List α → List α → List α
  | [], ys => ys
  | x :: xs, [] => x :: xs
  | x :: xs, y :: ys => x :: y :: alternate xs ys

/-- Texts in turn with one and the same separator are the texts joined by it. -/
lemma flatten_alternate_eq_intercalate {sep : List Char} {ts gs : List (List Char)}
    (hlen : gs.length + 1 = ts.length) (hsep : ∀ g ∈ gs, g = sep) :
    (alternate ts gs).flatten = sep.intercalate ts := by
  induction ts generalizing gs with
  | nil => exact absurd hlen (by simp)
  | cons t ts ih =>
      cases gs with
      | nil =>
          have hts : ts = [] := List.length_eq_zero_iff.1 (by simpa using hlen.symm)
          subst hts
          simp [alternate]
      | cons g gs =>
          have hlen' : gs.length + 1 = ts.length := by simpa using hlen
          have hts : ts ≠ [] := by
            rintro rfl
            simp at hlen'
          rw [alternate, List.flatten_cons, List.flatten_cons,
            ih hlen' fun g' hg' => hsep g' (List.mem_cons_of_mem _ hg'),
            hsep g List.mem_cons_self, List.intercalate_cons_of_ne_nil hts, List.append_assoc]

namespace Cut

/-- The ends of a piece. -/
def piece (c : Cut) : Nat × Nat := (c.start, c.stop)

/-- The ends of the boundary behind a piece. -/
def gap (c : Cut) : Option (Nat × Nat) := c.next.map fun n => (c.stop, n)

/-- The spans of pieces. -/
def pieces (cuts : List Cut) : List (Nat × Nat) := cuts.map piece

/-- The spans of the boundaries that end pieces. -/
def gaps (cuts : List Cut) : List (Nat × Nat) := cuts.filterMap gap

variable {start stop n : Nat} {rest : List Cut}

@[simp] lemma pieces_nil : pieces [] = [] := rfl
@[simp] lemma gaps_nil : gaps [] = [] := rfl

@[simp] lemma pieces_cons (c : Cut) : pieces (c :: rest) = (c.start, c.stop) :: pieces rest := rfl

@[simp] lemma gaps_last : gaps [⟨start, stop, none⟩] = [] := rfl

@[simp] lemma gaps_cons : gaps (⟨start, stop, some n⟩ :: rest) = (stop, n) :: gaps rest := rfl

@[simp] lemma length_pieces (cuts : List Cut) : (pieces cuts).length = cuts.length := by
  rw [pieces, List.length_map]

end Cut

section Search

variable [PatternSearch]

/-- **A tiling.**  From a place on, either the last piece runs to the end of the text, or a piece
is ended by a boundary and a tiling follows that boundary, or the place is the end of the text and
an empty match there has eaten the piece that would be left.  A boundary is looked for where its
piece starts, or one character further on. -/
inductive Tiling (d : Delimiter) (text : List Char) : Nat → List Cut → Prop
  | last {start : Nat} (inside : start ≤ text.length) :
      Tiling d text start [⟨start, text.length, none⟩]
  | lost (empty : d.locate text text.length = some (text.length, text.length)) :
      Tiling d text text.length []
  | piece {start stop n place : Nat} {rest : List Cut} (ordered : start ≤ stop ∧ stop ≤ n)
      (forward : start < n) (near : start ≤ place ∧ place ≤ start + 1)
      (found : d.locate text place = some (stop, n)) (behind : Tiling d text n rest) :
      Tiling d text start (⟨start, stop, some n⟩ :: rest)

/-! ## The pieces that are cut form a tiling -/

namespace Delimiter

variable {d : Delimiter} {text : List Char} {start : Nat}

/-- **What a cut can do.**  There is no piece, and then the place is the end of the text and an
empty match lies there; or the piece runs to the end of the text; or a boundary ends it. -/
theorem cut_cases (h : start ≤ text.length) :
    (d.cut text start = none ∧ start = text.length
        ∧ d.locate text start = some (start, start))
      ∨ d.cut text start = some ⟨start, text.length, none⟩
      ∨ ∃ stop n place, d.cut text start = some ⟨start, stop, some n⟩
          ∧ (start ≤ stop ∧ stop ≤ n) ∧ start < n ∧ (start ≤ place ∧ place ≤ start + 1)
          ∧ d.locate text place = some (stop, n) := by
  rw [cut]
  rcases hl : d.locate text start with _ | ⟨s, e⟩
  · exact Or.inr (Or.inl rfl)
  · have hle := le_of_locate hl
    by_cases he : e = start
    · have hs : s = start := by omega
      subst he hs
      simp only [if_true]
      rcases Nat.lt_or_ge s text.length with hlt | hge
      · rw [if_pos hlt]
        rcases hl' : d.locate text (s + 1) with _ | ⟨s', e'⟩
        · exact Or.inr (Or.inl rfl)
        · have hle' := le_of_locate hl'
          exact Or.inr (Or.inr ⟨s', e', s + 1, rfl, by omega, by omega, by omega, hl'⟩)
      · rw [if_neg (by omega)]
        exact Or.inl ⟨rfl, by omega, trivial⟩
    · simp only [if_neg he]
      exact Or.inr (Or.inr ⟨s, e, start, rfl, by omega, by omega, by omega, hl⟩)

end Delimiter

/-- **The pieces of a text form a tiling.** -/
theorem tiling_cutsFrom (d : Delimiter) {text : List Char} {start : Nat}
    (h : start ≤ text.length) : Tiling d text start (d.cutsFrom text start) := by
  rw [Delimiter.cutsFrom_eq]
  rcases Delimiter.cut_cases (d := d) h with ⟨hc, rfl, hl⟩ | hc | ⟨stop, n, place, hc, hord, hlt,
    hnear, hl⟩
  · rw [hc]
    exact Tiling.lost hl
  · rw [hc]
    exact Tiling.last h
  · rw [hc]
    have hn : n ≤ text.length := (Delimiter.le_of_locate hl).2.2
    exact Tiling.piece hord hlt hnear hl (tiling_cutsFrom d hn)
termination_by text.length - start

/-! ## What every tiling gives -/

namespace Tiling

open Cut

variable {d : Delimiter} {text : List Char} {start : Nat} {cuts : List Cut}

/-- A tiling begins inside the text. -/
lemma le_length (h : Tiling d text start cuts) : start ≤ text.length := by
  induction h with
  | last inside => exact inside
  | lost => exact Nat.le_refl _
  | piece _ hlt _ _ _ ih => omega

/-- Every piece lies inside the text, behind the place where the tiling begins. -/
lemma inside (h : Tiling d text start cuts) :
    ∀ a ∈ pieces cuts, start ≤ a.1 ∧ a.1 ≤ a.2 ∧ a.2 ≤ text.length := by
  induction h with
  | last hle =>
      intro a ha
      rw [pieces_cons, pieces_nil, List.mem_singleton] at ha
      subst ha
      exact ⟨Nat.le_refl _, hle, Nat.le_refl _⟩
  | lost =>
      intro a ha
      exact absurd ha List.not_mem_nil
  | piece hord hlt _ _ behind ih =>
      have hn := behind.le_length
      intro a ha
      rw [pieces_cons] at ha
      rcases List.mem_cons.1 ha with rfl | ha
      · exact ⟨Nat.le_refl _, hord.1, Nat.le_trans hord.2 hn⟩
      · have := ih a ha
        omega

/-- **Nothing is lost, nothing is doubled.**  Pieces and boundaries in turn are the text from the
place where the tiling begins. -/
theorem flatten_alternate (h : Tiling d text start cuts) :
    (alternate ((pieces cuts).map (spanText text)) ((gaps cuts).map (spanText text))).flatten
      = text.drop start := by
  induction h with
  | last => simp [alternate, spanText, stretch_to_length]
  | lost => simp [alternate]
  | piece hord _ _ _ _ ih =>
      simp only [pieces_cons, gaps_cons, List.map_cons, alternate, List.flatten_cons, ih, spanText]
      rw [stretch_append_drop text hord.2, stretch_append_drop text hord.1]

/-- **Order.**  Every piece ends before each later one starts, and they start at different
places. -/
theorem pairwise_pieces (h : Tiling d text start cuts) :
    (pieces cuts).Pairwise fun a b => a.2 ≤ b.1 ∧ a.1 < b.1 := by
  induction h with
  | last => exact List.pairwise_singleton _ _
  | lost => exact List.Pairwise.nil
  | piece hord hlt _ _ behind ih =>
      rw [pieces_cons, List.pairwise_cons]
      refine ⟨fun b hb => ?_, ih⟩
      have := behind.inside b hb
      exact ⟨Nat.le_trans hord.2 this.1, Nat.lt_of_lt_of_le hlt this.1⟩

/-- Every boundary is one that has been located. -/
theorem located (h : Tiling d text start cuts) :
    ∀ g ∈ gaps cuts, ∃ place, d.locate text place = some g := by
  induction h with
  | last =>
      intro g hg
      simp at hg
  | lost =>
      intro g hg
      simp at hg
  | piece _ _ _ found _ ih =>
      intro g hg
      rw [gaps_cons] at hg
      rcases List.mem_cons.1 hg with rfl | hg
      · exact ⟨_, found⟩
      · exact ih g hg

/-- Each piece ends where the boundary beside it starts. -/
theorem ended (h : Tiling d text start cuts) :
    ∀ q ∈ (pieces cuts).zip (gaps cuts), q.1.2 = q.2.1 := by
  induction h with
  | last =>
      intro q hq
      simp at hq
  | lost =>
      intro q hq
      simp at hq
  | piece _ _ _ _ _ ih =>
      intro q hq
      rw [pieces_cons, gaps_cons, List.zip_cons_cons] at hq
      rcases List.mem_cons.1 hq with rfl | hq
      · rfl
      · exact ih q hq

/-- If there is a piece, the first one starts where the tiling begins. -/
lemma head?_pieces (h : Tiling d text start cuts) :
    ∀ a ∈ (pieces cuts).head?, a.1 = start := by
  cases h with
  | last => simp
  | lost => simp
  | piece => simp

/-- Each boundary ends where the next piece starts. -/
theorem adjacent (h : Tiling d text start cuts) :
    ∀ q ∈ (gaps cuts).zip (pieces cuts).tail, q.1.2 = q.2.1 := by
  induction h with
  | last =>
      intro q hq
      simp at hq
  | lost =>
      intro q hq
      simp at hq
  | @piece start stop n place rest _ _ _ _ behind ih =>
      have hhead := behind.head?_pieces
      intro q hq
      rw [pieces_cons, gaps_cons, List.tail_cons] at hq
      rcases hp : pieces rest with _ | ⟨b, more⟩
      · rw [hp, List.zip_nil_right] at hq
        exact absurd hq List.not_mem_nil
      · rw [hp, List.zip_cons_cons] at hq
        rw [hp] at hhead ih
        rcases List.mem_cons.1 hq with rfl | hq
        · exact (hhead b rfl).symm
        · exact ih q hq

/-- **One boundary fewer than pieces.**  The only exception is an empty match at the end of the
text; then the last boundary ends there too, so that the piece that is missing is empty. -/
theorem count (h : Tiling d text start cuts) :
    (gaps cuts).length + 1 = cuts.length
      ∨ ((gaps cuts).length = cuts.length
          ∧ d.locate text text.length = some (text.length, text.length)
          ∧ ∀ g ∈ (gaps cuts).getLast?, g.2 = text.length) := by
  induction h with
  | last => exact Or.inl rfl
  | lost hempty => exact Or.inr ⟨rfl, hempty, by simp⟩
  | @piece start stop n place rest _ _ _ _ behind ih =>
      rw [gaps_cons, List.length_cons, List.length_cons]
      rcases ih with hlen | ⟨hlen, hempty, hend⟩
      · exact Or.inl (by omega)
      · refine Or.inr ⟨by omega, hempty, ?_⟩
        rcases hg : gaps rest with _ | ⟨g, more⟩
        · have hrest : rest = [] := by
            rw [← List.length_eq_zero_iff, ← hlen, hg, List.length_nil]
          subst hrest
          cases behind with
          | lost => simp
        · rw [hg] at hend
          rw [List.getLast?_cons_cons]
          exact hend

end Tiling

/-- Every piece of a text lies inside it. -/
lemma Delimiter.cutsFrom_inside (d : Delimiter) (text : List Char) :
    ∀ c ∈ d.cutsFrom text 0, c.start ≤ c.stop ∧ c.stop ≤ text.length := by
  intro c hc
  have h := tiling_cutsFrom d (Nat.zero_le text.length)
  exact (h.inside c.piece (List.mem_map_of_mem hc)).2

/-! ## The tokens of a plain splitter -/

namespace Splitter

open Cut

/-- A plain splitter keeps every piece as it is cut. -/
lemma spans_plain (d : Delimiter) (text : List Char) :
    (plain d).spans text = pieces (d.cutsFrom text 0) := by
  rw [spans, spansFrom]
  exact List.filter_eq_self.2 fun _ _ => rfl

lemma tokens_plain (d : Delimiter) (text : List Char) :
    (plain d).tokens text = (pieces (d.cutsFrom text 0)).map (spanText text) := by
  rw [tokens_of_limit_eq_none rfl, spans_plain]

/-- Where every boundary is the same text, joining the tokens with it gives the text back.  Such a
boundary is not empty, so that no piece is missing at the end. -/
lemma intercalate_tokens_plain {d : Delimiter} {sep : List Char} (hd : ¬ d.IsPattern)
    (text : List Char)
    (hsep : ∀ place g, d.locate text place = some g → spanText text g = sep) :
    sep.intercalate ((plain d).tokens text) = text := by
  have h := tiling_cutsFrom d (Nat.zero_le text.length)
  have hlen : (gaps (d.cutsFrom text 0)).length + 1 = (d.cutsFrom text 0).length := by
    rcases h.count with hlen | ⟨-, hempty, -⟩
    · exact hlen
    · exact absurd (Delimiter.isPattern_of_locate_self hempty) hd
  have hflat := h.flatten_alternate
  rw [List.drop_zero, ← tokens_plain] at hflat
  rw [← flatten_alternate_eq_intercalate _ _, hflat]
  · rw [tokens_plain, List.length_map, List.length_map, length_pieces, hlen]
  · intro g hg
    obtain ⟨a, ha, rfl⟩ := List.mem_map.1 hg
    obtain ⟨place, hl⟩ := h.located a ha
    exact hsep place a hl

end Splitter

/-- **Lossless tiling.**  The tokens of a plain splitter are the pieces of the text, and in turn
with the boundaries that ended them they are the text again.  The pieces follow one another without
overlap, each boundary is one that was located and fills the place between two pieces, and there is
one boundary fewer than there are tokens.  Only a pattern with an empty match at the very end of
the text makes an exception: then the piece behind the last boundary, which is empty, is missing.
Joining the tokens at a character or a separator therefore gives the text back. -/
theorem plain_tokens_tile (d : Delimiter) (text : List Char) :
    let tokens := (Splitter.plain d).tokens text
    let pieces := Cut.pieces (d.cutsFrom text 0)
    let gaps := Cut.gaps (d.cutsFrom text 0)
    tokens = pieces.map (spanText text)
      ∧ (alternate tokens (gaps.map (spanText text))).flatten = text
      ∧ (pieces.Pairwise fun a b => a.2 ≤ b.1 ∧ a.1 < b.1)
      ∧ (∀ a ∈ pieces, a.1 ≤ a.2 ∧ a.2 ≤ text.length)
      ∧ (∀ g ∈ gaps, ∃ place, d.locate text place = some g)
      ∧ (∀ q ∈ pieces.zip gaps, q.1.2 = q.2.1)
      ∧ (∀ q ∈ gaps.zip pieces.tail, q.1.2 = q.2.1)
      ∧ (gaps.length + 1 = tokens.length
        ∨ (gaps.length = tokens.length ∧ d.IsPattern
          ∧ d.locate text text.length = some (text.length, text.length)
          ∧ ∀ g ∈ gaps.getLast?, g.2 = text.length))
      ∧ (∀ c, d = .char c → List.intercalate [c] tokens = text)
      ∧ (∀ sep hasChar, d = .literal sep hasChar → List.intercalate sep tokens = text) := by
  intro tokens pieces gaps
  have h : Tiling d text 0 (d.cutsFrom text 0) := tiling_cutsFrom d (Nat.zero_le _)
  have htokens : tokens = pieces.map (spanText text) := Splitter.tokens_plain d text
  have hlen : tokens.length = (d.cutsFrom text 0).length := by
    rw [htokens, List.length_map, Cut.length_pieces]
  refine ⟨htokens, ?_, h.pairwise_pieces, fun a ha => (h.inside a ha).2, h.located, h.ended,
    h.adjacent, ?_, ?_, ?_⟩
  · rw [htokens, h.flatten_alternate, List.drop_zero]
  · rw [hlen]
    exact h.count.imp_right fun ⟨hn, hempty, hend⟩ =>
      ⟨hn, Delimiter.isPattern_of_locate_self hempty, hempty, hend⟩
  · rintro c rfl
    have hd : ¬ (Delimiter.char c).IsPattern := not_false
    exact Splitter.intercalate_tokens_plain hd text fun place g hg =>
      Delimiter.stretch_of_locate_char hg
  · rintro sep hasChar rfl
    have hd : ¬ (Delimiter.literal sep hasChar).IsPattern := not_false
    exact Splitter.intercalate_tokens_plain hd text fun place g hg =>
      Delimiter.stretch_of_locate_literal hg

end Search

/-- The exception: behind the last comma lies an empty match, so the empty piece there is
missing. -/
example :
    (Pattern.compile [',', '|', '(', '?', '<', '=', ',', ')'] ⟨0⟩).toOption.map (fun p =>
      if cuts : p.matchesEmpty = false then
        let d := Delimiter.pattern p cuts
        ((Splitter.plain d).tokens ['a', ','], Cut.gaps (d.cutsFrom ['a', ','] 0))
      else ([], []))
      = some ([['a']], [(1, 2)]) := by
  decide +kernel

end TextSplit
