import TextSplit.Proofs.Boundary
import TextSplit.Proofs.Session

/-!
# Cursors on a growing buffer

A cursor reads its buffer anew on every pull, while its place, the number of tokens still allowed
and the token it holds ready stem from an older and shorter text.  That this does no harm rests on
one fact: unless the delimiter is a pattern, a pull that leaves a place to go on from gives the same
answer on every longer text.  So the tokens of an open cursor are tokens of whatever the buffer
grows into, and the pull that closes the cursor fixes the text that was split.

* `span_grow`, **`pull_grow`** — such a piece, and such a pull, is not changed by what is appended.
* `Session.Faithful` — the invariant: an open cursor stands where the tokens of every longer text
  go on, and a closed one has computed the tokens of the text at its closing.
* `faithful_settle`, `faithful_step` — it is kept by looking, and by every move.
* **`computed_growing`** — the tokens computed in any session.
-/

namespace TextSplit

section Search

variable [PatternSearch]

namespace Splitter

variable {s : Splitter} {text : List Char}

/-- A piece that a boundary ends is trimmed in the same way in every longer text, and its token is
the same. -/
lemma span_grow (hd : ¬ s.delimiter.IsPattern) (more : List Char) {start n : Nat} {c : Cut}
    (hc : s.delimiter.cut text start = some c) (hn : c.next = some n) :
    s.delimiter.cut (text ++ more) start = some c
      ∧ s.span (text ++ more) c = s.span text c
      ∧ spanText (text ++ more) (s.span text c) = spanText text (s.span text c) := by
  obtain ⟨hcut, hord, hin⟩ := Delimiter.cut_grow hd more hc hn
  have hlast : (s.span text c).2 ≤ text.length :=
    Nat.le_trans (le_trimSpan s.trimmer text hord).2.2 hin
  exact ⟨hcut, trimSpan_grow s.trimmer more hin, stretch_grow more hlast⟩

/-- A pull that begins with the last piece leaves no place to go on from. -/
lemma pull_next_of_cut {start : Nat} {left : Option Nat} {c : Cut} {p : Pull}
    (hc : s.delimiter.cut text start = some c) (hnone : c.next = none)
    (h : s.pull text start left = some p) : p.next = none := by
  rw [pull_of_cut hc, hnone] at h
  split_ifs at h
  · rw [Option.some.injEq] at h
    rw [← h]
  · rw [Option.some.injEq] at h
    rw [← h]
  · exact absurd h (by simp)

/-- **A pull stays.**  Unless the delimiter is a pattern, a pull that leaves a place to go on from
is the same pull of every longer text.  The induction is on the pieces that are passed over: each of
them is ended by a boundary, so none has been cut at the end of the text. -/
theorem pull_grow (hd : ¬ s.delimiter.IsPattern) (more : List Char) {start n : Nat}
    {left : Option Nat} {p : Pull} (h : s.pull text start left = some p)
    (hn : p.next = some n) : s.pull (text ++ more) start left = some p := by
  induction start using Delimiter.cutsFrom.induct s.delimiter text with
  | case1 start hc =>
      rw [pull_of_cut_eq_none hc] at h
      exact absurd h (by simp)
  | case2 start c hc hnone =>
      rw [pull_next_of_cut hc hnone h] at hn
      exact absurd hn (by simp)
  | case3 start c hc m hm ih =>
      obtain ⟨hcut, hspan, htext⟩ := span_grow hd more hc hm
      rw [pull_of_cut hc, hm] at h
      rw [pull_of_cut hcut, hspan, hm]
      split_ifs at h ⊢ with hk hl
      · rw [Option.some.injEq] at h
        subst h
        exact absurd hn (by simp)
      · rw [← h, Option.some.injEq, Pull.mk.injEq]
        exact ⟨htext, rfl, rfl⟩
      · exact ih h

end Splitter

namespace Session

/-- **The invariant.**  While there is a place to go on from, the tokens of whatever the buffer
grows into are those computed so far and those from that place on.  Afterwards, the tokens computed
are those of the text that the buffer held at the closing. -/
structure Faithful (s : Splitter) (z : Session) : Prop where
  splitter : z.cursor.splitter = s
  ahead : ∀ place, z.cursor.offset = some place → ∀ more,
    s.tokens (z.text ++ more)
      = z.computed ++ s.tokensFrom (z.text ++ more) place z.cursor.left
  closed : z.cursor.offset = none →
    ∃ closing, z.closing = some closing ∧ z.computed = s.tokens closing

variable {s : Splitter} {z : Session}

lemma faithful_start (s : Splitter) (text : List Char) : Faithful s (start s text) where
  splitter := rfl
  ahead place hplace more := by
    have h0 : place = 0 := (Option.some.inj hplace).symm
    subst h0
    rfl
  closed h := absurd h (by simp [start, Cursor.start])

/-- A call that takes the place to go on from away keeps the invariant if the tokens are those of
the buffer as it stands. -/
lemma faithful_closing {c : Cursor} {place : Nat} (hs : c.splitter = s)
    (hopen : z.cursor.offset = some place) (hnone : c.offset = none)
    (htokens : z.handed ++ c.held = s.tokens z.text) : Faithful s (z.afterCall c) where
  splitter := hs
  ahead place hplace := by
    rw [afterCall, hnone] at hplace
    exact absurd hplace (by simp)
  closed _ := ⟨z.text, by simp [afterCall, hopen, hnone], htokens⟩

/-- **Looking keeps the invariant.**  The pull either finds the buffer at its end, and then this
text is noted; or it leaves a place to go on from, and then it is not changed by what is
appended. -/
theorem faithful_settle (hd : ¬ s.delimiter.IsPattern) (h : Faithful s z) :
    Faithful s (z.afterCall (z.cursor.settle z.text)) := by
  have hidle : z.cursor.phase = .idle → z.computed = z.handed := by
    intro hp
    rw [computed, Cursor.held, hp, List.append_nil]
  have htext : ∀ place, z.cursor.offset = some place →
      s.tokens z.text = z.computed ++ s.tokensFrom z.text place z.cursor.left := by
    intro place hplace
    have := h.ahead place hplace []
    rwa [List.append_nil] at this
  rcases z.cursor.settle_cases z.text with ⟨-, hc⟩ | ⟨hphase, hoff, hc⟩
    | ⟨place, hphase, hoff, hpull, hc⟩ | ⟨place, p, hphase, hoff, hpull, hc⟩
  · rw [hc, afterCall_cursor]
    exact h
  · -- the cursor had been closed before: nothing is computed, and nothing is noted
    obtain ⟨closing, hclosing, htokens⟩ := h.closed hoff
    rw [hc]
    refine ⟨h.splitter, fun place hplace => absurd hplace (by simp [afterCall]), fun _ => ?_⟩
    refine ⟨closing, by simp [afterCall, hoff, hclosing], ?_⟩
    rw [← htokens, hidle hphase]
    exact List.append_nil _
  · rw [h.splitter] at hpull
    rw [hc]
    refine faithful_closing h.splitter hoff rfl ?_
    rw [htext place hoff, Splitter.tokensFrom_eq, hpull, hidle hphase]
    rfl
  · rw [h.splitter] at hpull
    rw [hc]
    rcases hnext : p.next with _ | n
    · refine faithful_closing h.splitter hoff rfl ?_
      rw [htext place hoff, Splitter.tokensFrom_eq, hpull, hidle hphase]
      simp only [hnext, Splitter.tokensBehind]
      rfl
    · refine ⟨h.splitter, ?_, fun hnone => absurd hnone (by simp [afterCall])⟩
      intro place' hplace' more
      have hn : place' = n := (Option.some.inj hplace').symm
      subst hn
      have hgrow := Splitter.pull_grow hd more hpull hnext
      have hahead := h.ahead place hoff more
      rw [Splitter.tokensFrom_eq, hgrow] at hahead
      simp only [hnext, Splitter.tokensBehind] at hahead
      refine hahead.trans ?_
      rw [hidle hphase, List.append_cons]
      rfl

/-- Handing out the token that is held does not change what has been computed. -/
lemma faithful_handed {c : Cursor} {token : List Char} (hc : c.phase = .ready token)
    (h : Faithful s (z.afterCall c)) :
    Faithful s { z.afterCall { c with phase := .idle } with handed := z.handed ++ [token] } := by
  have hcomputed : (z.afterCall c).computed = z.handed ++ [token] := by
    simp only [computed, afterCall, Cursor.held, hc]
  have hsame : ({ z.afterCall { c with phase := .idle } with
      handed := z.handed ++ [token] } : Session).computed = (z.afterCall c).computed := by
    rw [hcomputed]
    exact List.append_nil _
  refine ⟨h.splitter, fun place hplace more => ?_, fun hnone => ?_⟩
  · rw [hsame]
    exact h.ahead place hplace more
  · rw [hsame]
    exact h.closed hnone

/-- **Every move keeps the invariant.** -/
theorem faithful_step (hd : ¬ s.delimiter.IsPattern) (z : Session) (move : Move)
    (h : Faithful s z) : Faithful s (z.step move) := by
  cases move with
  | append more =>
      refine ⟨h.splitter, fun place hplace more' => ?_, h.closed⟩
      have := h.ahead place hplace (more ++ more')
      rw [← List.append_assoc] at this
      exact this
  | hasNext =>
      rw [step, Cursor.hasNext_snd]
      exact faithful_settle hd h
  | next =>
      have hsettle := faithful_settle hd h
      rcases z.cursor.next_eq z.text with ⟨token, hphase, hnext⟩ | ⟨-, hnext⟩
      · rw [step, hnext]
        exact faithful_handed hphase hsettle
      · rw [step, hnext]
        simp only [Option.toList_none, List.append_nil]
        exact hsettle

/-- Once there is no place left to go on from, further moves compute nothing. -/
lemma computed_run_of_closed (hd : ¬ s.delimiter.IsPattern) (h : Faithful s z)
    (hnone : z.cursor.offset = none) (moves : List Move) :
    (z.run moves).computed = z.computed := by
  obtain ⟨closing, hclosing, htokens⟩ := h.closed hnone
  have hkept : (z.run moves).cursor.offset = none ∧ (z.run moves).closing = some closing :=
    run_induction (P := fun z => z.cursor.offset = none ∧ z.closing = some closing)
      (fun z move hz => by
        have := step_of_closed hz.1 move
        exact ⟨this.1, this.2.trans hz.2⟩)
      ⟨hnone, hclosing⟩ moves
  have hlater : Faithful s (z.run moves) := run_induction (faithful_step hd) h moves
  obtain ⟨closing', hclosing', htokens'⟩ := hlater.closed hkept.1
  have hsame : closing' = closing := Option.some.inj (hclosing'.symm.trans hkept.2)
  rw [htokens', htokens, hsame]

end Session

/-- **A growing buffer.**  Take any splitter whose delimiter is not a pattern, and any sequence of
appends to the buffer and calls of one cursor on it.  If the cursor has no place left to go on
from, it has computed the tokens of what the buffer held when that place was lost, be they handed
out or held ready, and it will compute no more.  As long as there is such a place, the tokens
computed so far are the first tokens of everything that the buffer can grow into. -/
theorem computed_growing (s : Splitter) (hd : ¬ s.delimiter.IsPattern) (text : List Char)
    (moves : List Move) :
    let z := (Session.start s text).run moves
    (z.cursor.offset = none →
        ∃ closing, z.closing = some closing ∧ z.computed = s.tokens closing
          ∧ ∀ later, (z.run later).computed = z.computed)
      ∧ (z.cursor.offset ≠ none →
        ∀ more, z.computed <+: s.tokens (z.text ++ more)) := by
  intro z
  have h : Session.Faithful s z :=
    Session.run_induction (Session.faithful_step hd) (Session.faithful_start s text) moves
  refine ⟨fun hnone => ?_, fun hopen more => ?_⟩
  · obtain ⟨closing, hclosing, htokens⟩ := h.closed hnone
    exact ⟨closing, hclosing, htokens, Session.computed_run_of_closed hd h hnone⟩
  · obtain ⟨place, hplace⟩ := Option.ne_none_iff_exists'.1 hopen
    rw [h.ahead place hplace more]
    exact List.prefix_append _ _

end Search

/-- A separator of two characters of which the second arrives later.  After the first token the
cursor has a place to go on from, and that token stays the first one whatever is appended.  After
the third token there is no such place, and the tokens are those of the text as it then stood. -/
theorem computed_growing_separator :
    let s := Splitter.plain (.literal ['-', '-'] (by decide))
    let text := ['a', '-', '-', 'b', '-']
    let early := [Move.next, .append ['-', 'c']]
    let moves := early ++ [.hasNext, .next, .next, .append ['d']]
    let y := (Session.start s text).run early
    let z := (Session.start s text).run moves
    ¬ s.delimiter.IsPattern
      ∧ (y.cursor.offset ≠ none ∧ y.computed = [['a']]
        ∧ ∀ more, y.computed <+: s.tokens (y.text ++ more))
      ∧ (z.cursor.offset = none ∧ z.computed = [['a'], ['b'], ['c']]
        ∧ ∃ closing, z.closing = some closing ∧ z.computed = s.tokens closing
          ∧ ∀ later, (z.run later).computed = z.computed) := by
  intro s text early moves y z
  have hd : ¬ s.delimiter.IsPattern := not_false
  have hopen : y.cursor.offset ≠ none := by decide +kernel
  have hnone : z.cursor.offset = none := by decide +kernel
  refine ⟨hd, ⟨hopen, ?_, (computed_growing s hd text early).2 hopen⟩,
    ⟨hnone, ?_, (computed_growing s hd text moves).1 hnone⟩⟩
  · decide +kernel
  · decide +kernel

end TextSplit
