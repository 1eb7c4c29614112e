import TextSplit.Proofs.Session

/-!
# What a cursor hands out

A cursor may hold a token that it has computed but not handed out, and asking whether there is one
computes it.  So calls in any order do not compute and hand out in step.  On a text that does not
change the two are tied by one quantity: the tokens that a cursor has handed out, followed by those
that are left to it, are the tokens of the text.  Looking moves nothing across that line, and
handing out moves the first token that is left.

* `Call` — what can be asked of a cursor; `Call.move` is the move of a session.
* `pull_left` — a pull uses up one of the tokens allowed, unless it is the last one.
* `Cursor.remaining_settle` — looking changes nothing about what is left; `Cursor.answers` — what a
  cursor answers, said of what is left.
* `Session.Sound` — the invariant, with the bounds on the place and on the number still allowed.
* `sound_step`, `handed_step` — it is kept by every call, and what the call hands out; `sound_run`,
  `run_start` — the same for a run of calls.
* `place_lt_of_computed`, `cursor_run_of_done` — progress, and its end.
* **`run_calls`** — what any sequence of calls hands out, and the state it leaves behind.
-/

namespace TextSplit

/-- What can be asked of a cursor. -/
inductive Call where
  /-- Is there a token? -/
  | hasNext
  /-- The next token, please. -/
  | next
  deriving DecidableEq, Repr, Inhabited

/-- A call on the buffer as it stands. -/
def Call.move : Call → Move
  | .hasNext => .hasNext
  | .next => .next

/-- A number of tokens still allowed lies between one and the limit. -/
def Limit.Allows (limit : Option Limit) (left : Option Nat) : Prop :=
  ∀ r, left = some r → ∃ k, limit = some k ∧ 1 ≤ r ∧ r ≤ k.1

variable [PatternSearch]

namespace Splitter

variable {s : Splitter} {text : List Char} {start : Nat} {left : Option Nat} {p : Pull}

/-- **What a pull uses up.**  The last token that the limit allows leaves the number as it is and no
place to go on from; any other uses up one.  Pieces that are passed over use up nothing, so the
induction is on them. -/
lemma pull_left (h : s.pull text start left = some p) :
    (p.left = left ∧ p.next = none) ∨ (left ≠ some 1 ∧ p.left = left.map (· - 1)) := by
  induction start using Delimiter.cutsFrom.induct s.delimiter text with
  | case1 start hc =>
      rw [pull_of_cut_eq_none hc] at h
      exact absurd h (by simp)
  | case2 start c hc hnone =>
      rw [pull_of_cut hc, hnone, Option.bind_none] at h
      split_ifs at h with hk hl
      · rw [Option.some.injEq] at h
        exact Or.inl (by rw [← h]; exact ⟨rfl, rfl⟩)
      · rw [Option.some.injEq] at h
        exact Or.inr (by rw [← h]; exact ⟨hl, rfl⟩)
  | case3 start c hc n hn ih =>
      rw [pull_of_cut hc, hn, Option.bind_some] at h
      split_ifs at h with hk hl
      · rw [Option.some.injEq] at h
        exact Or.inl (by rw [← h]; exact ⟨rfl, rfl⟩)
      · rw [Option.some.injEq] at h
        exact Or.inr (by rw [← h]; exact ⟨hl, rfl⟩)
      · exact ih h

/-- A pull stays within the limit. -/
lemma allows_pull {limit : Option Limit} (h : s.pull text start left = some p)
    (hl : Limit.Allows limit left) : Limit.Allows limit p.left := by
  rcases pull_left h with ⟨hp, -⟩ | ⟨hne, hp⟩
  · rw [hp]
    exact hl
  · intro r hr
    rw [hp, Option.map_eq_some_iff] at hr
    obtain ⟨q, rfl, rfl⟩ := hr
    obtain ⟨k, hk, h1, h2⟩ := hl q rfl
    have hq : q ≠ 1 := fun h => hne (by rw [h])
    exact ⟨k, hk, by omega, by omega⟩

end Splitter

namespace Cursor

variable {c : Cursor} {text : List Char}

/-- **Looking hands out nothing.**  What is left to a cursor is the same before and after. -/
theorem remaining_settle (c : Cursor) (text : List Char) :
    (c.settle text).remaining text = c.remaining text := by
  rcases c.settle_cases text with ⟨-, hc⟩ | ⟨hphase, hoff, hc⟩ | ⟨place, hphase, hoff, hpull, hc⟩
    | ⟨place, p, hphase, hoff, hpull, hc⟩
  · rw [hc]
  · rw [hc]
    simp only [remaining, hphase, hoff]
  · rw [hc]
    simp only [remaining, hphase, hoff]
    rw [Splitter.tokensFrom_eq, hpull]
  · rw [hc]
    simp only [remaining, hphase, hoff]
    rw [Splitter.tokensFrom_eq, hpull]
    rcases hnext : p.next with _ | n
    · simp only [hnext, Splitter.tokensBehind]
    · simp only [hnext, Splitter.tokensBehind]

/-- A cursor that holds no token after looking has none left. -/
lemma remaining_eq_nil_of_held (h : (c.settle text).held = []) : c.remaining text = [] := by
  rw [← remaining_settle]
  rcases c.settle_cases text with ⟨hphase, hc⟩ | ⟨-, -, hc⟩ | ⟨place, -, -, -, hc⟩
    | ⟨place, p, -, -, -, hc⟩
  · rw [hc] at h ⊢
    rcases hp : c.phase with _ | token | _
    · exact absurd hp hphase
    · exact absurd h (by simp [held, hp])
    · simp only [remaining, hp]
  · rw [hc]
    rfl
  · rw [hc]
    rfl
  · rw [hc] at h
    exact absurd h (by simp [held])

/-- **What a cursor answers.**  It has a token if one is left, and the next token is the first that
is left. -/
theorem answers (c : Cursor) (text : List Char) :
    (c.next text).1 = (c.remaining text).head?
      ∧ (c.hasNext text).1 = !(c.remaining text).isEmpty := by
  rw [hasNext]
  rcases c.next_eq text with ⟨token, hphase, hnext⟩ | ⟨hheld, hnext⟩
  · have hrem : ∃ ahead, c.remaining text = token :: ahead := by
      rw [← remaining_settle]
      simp only [remaining, hphase]
      exact ⟨_, rfl⟩
    obtain ⟨ahead, hrem⟩ := hrem
    simp only [hnext, hrem, hphase]
    exact ⟨rfl, rfl⟩
  · rw [hnext, remaining_eq_nil_of_held hheld]
    rcases hp : (c.settle text).phase with _ | token | _
    · exact ⟨rfl, rfl⟩
    · exact absurd hheld (by simp [held, hp])
    · exact ⟨rfl, rfl⟩

end Cursor

namespace Session

variable {s : Splitter} {text : List Char} {z : Session}

/-- **The invariant.**  On a text that does not change, the tokens handed out and those left are the
tokens of the text.  A place to go on from lies in the text, there is none once the cursor is done,
and a number of tokens still allowed lies between one and the limit. -/
structure Sound (s : Splitter) (text : List Char) (z : Session) : Prop where
  fixed : z.text = text
  splits : z.cursor.splitter = s
  accounted : z.handed ++ z.cursor.remaining text = s.tokens text
  inside : ∀ place, z.cursor.offset = some place → place ≤ text.length
  done : z.cursor.phase = .done → z.cursor.offset = none
  allowed : Limit.Allows s.limit z.cursor.left

lemma sound_start (s : Splitter) (text : List Char) : Sound s text (start s text) where
  fixed := rfl
  splits := rfl
  accounted := rfl
  inside place hplace := by
    rw [← Option.some.inj hplace]
    exact Nat.zero_le _
  done h := absurd h (by simp [start, Cursor.start])
  allowed r hr := by
    obtain ⟨k, hk, rfl⟩ := Option.map_eq_some_iff.1 hr
    exact ⟨k, hk, k.2, Nat.le_refl _⟩

/-- Looking keeps the invariant. -/
lemma sound_settle (h : Sound s text z) : Sound s text (z.afterCall (z.cursor.settle z.text)) := by
  have htext := h.fixed
  have htokens : z.handed ++ (z.cursor.settle z.text).remaining text = s.tokens text := by
    rw [h.fixed, Cursor.remaining_settle, h.accounted]
  rcases z.cursor.settle_cases z.text with ⟨-, hc⟩ | ⟨-, -, hc⟩ | ⟨place, -, -, -, hc⟩
    | ⟨place, p, -, hoff, hpull, hc⟩
  · rw [hc, afterCall_cursor]
    exact h
  · rw [hc] at htokens ⊢
    exact ⟨htext, h.splits, htokens, fun _ hplace => absurd hplace (by simp [afterCall]),
      fun _ => rfl, h.allowed⟩
  · rw [hc] at htokens ⊢
    exact ⟨htext, h.splits, htokens, fun _ hplace => absurd hplace (by simp [afterCall]),
      fun _ => rfl, h.allowed⟩
  · rw [hc] at htokens ⊢
    refine ⟨htext, h.splits, htokens, fun n hn => ?_, fun hdone => absurd hdone (by simp [afterCall]),
      Splitter.allows_pull hpull h.allowed⟩
    have := (Splitter.pull_next hpull hn).2
    rwa [htext] at this

/-- **Every call keeps the invariant.** -/
theorem sound_step (h : Sound s text z) (call : Call) : Sound s text (z.step call.move) := by
  have hsettle := sound_settle h
  cases call with
  | hasNext =>
      rw [Call.move, step, Cursor.hasNext_snd]
      exact hsettle
  | next =>
      rcases z.cursor.next_eq z.text with ⟨token, hphase, hnext⟩ | ⟨-, hnext⟩
      · rw [Call.move, step, hnext]
        refine ⟨hsettle.fixed, hsettle.splits, ?_, hsettle.inside,
          fun hdone => absurd hdone (by simp [afterCall]), hsettle.allowed⟩
        rw [← hsettle.accounted]
        simp only [afterCall, Cursor.remaining, hphase, Option.toList_some, List.append_assoc,
          List.singleton_append]
      · rw [Call.move, step, hnext]
        simp only [Option.toList_none, List.append_nil]
        exact hsettle

/-- What a sound session has handed out are the first tokens of the text. -/
lemma handed_eq_take (h : Sound s text z) :
    z.handed = (s.tokens text).take z.handed.length := by
  rw [← h.accounted, List.take_left]

/-- What a sound session has left are the others. -/
lemma remaining_eq_drop (h : Sound s text z) :
    z.cursor.remaining text = (s.tokens text).drop z.handed.length := by
  rw [← h.accounted, List.drop_left]

/-- **What a call hands out.**  A question hands out nothing.  A request hands out the first token
that has not been handed out, if there is one. -/
theorem handed_step (h : Sound s text z) (call : Call) :
    (z.step call.move).handed
      = (s.tokens text).take (z.handed.length + [call].count .next) := by
  have hhanded := handed_eq_take h
  cases call with
  | hasNext => exact hhanded
  | next =>
      have hnext : (z.cursor.next z.text).1 = (s.tokens text)[z.handed.length]? := by
        rw [h.fixed, (z.cursor.answers text).1, remaining_eq_drop h, List.head?_drop]
      show z.handed ++ (z.cursor.next z.text).1.toList = (s.tokens text).take (z.handed.length + 1)
      rw [hnext, List.take_add_one, ← hhanded]

/-- **A run of calls.**  It keeps the invariant, and each request in it hands out one more token
until there is none.  The induction is on the calls, with the session generalized. -/
theorem sound_run (h : Sound s text z) (calls : List Call) :
    Sound s text (z.run (calls.map Call.move))
      ∧ (z.run (calls.map Call.move)).handed
        = (s.tokens text).take (z.handed.length + calls.count .next) := by
  induction calls generalizing z with
  | nil => exact ⟨h, handed_eq_take h⟩
  | cons call calls ih =>
      obtain ⟨hsound, hhanded⟩ := ih (sound_step h call)
      refine ⟨hsound, hhanded.trans ?_⟩
      have hlen : (z.step call.move).handed.length
          = min (z.handed.length + [call].count .next) (s.tokens text).length := by
        rw [handed_step h call, List.length_take]
      have hcount : (call :: calls).count .next = [call].count .next + calls.count .next := by
        rw [← List.count_append, List.singleton_append]
      -- past the end, one more request and one token fewer to hand out give the same list
      rw [hlen, hcount, List.take_eq_take_iff]
      omega

/-- A run of calls on a new cursor.  It hands out as many of the first tokens as are asked for, and
leaves the others. -/
lemma run_start (s : Splitter) (text : List Char) (calls : List Call) :
    let z := (start s text).run (calls.map Call.move)
    Sound s text z
      ∧ z.handed = (s.tokens text).take (calls.count .next)
      ∧ z.cursor.remaining text = (s.tokens text).drop (calls.count .next) := by
  intro z
  obtain ⟨hsound, hhanded⟩ := sound_run (sound_start s text) calls
  have htake : z.handed = (s.tokens text).take (calls.count .next) := by
    rw [← Nat.zero_add (calls.count .next)]
    exact hhanded
  refine ⟨hsound, htake, ?_⟩
  have hall := hsound.accounted
  rw [htake] at hall
  exact List.append_cancel_left (hall.trans (List.take_append_drop _ _).symm)

/-! ## States -/

/-- A call computes what looking computes, and leaves the place where looking leaves it. -/
lemma computed_step (z : Session) (call : Call) :
    (z.step call.move).computed = z.handed ++ (z.cursor.settle z.text).held
      ∧ (z.step call.move).cursor.offset = (z.cursor.settle z.text).offset := by
  cases call with
  | hasNext =>
      rw [Call.move, step, Cursor.hasNext_snd]
      exact ⟨rfl, rfl⟩
  | next =>
      rcases z.cursor.next_eq z.text with ⟨token, hphase, hnext⟩ | ⟨hheld, hnext⟩
      · rw [Call.move, step, hnext]
        simp only [computed, afterCall, Cursor.held, hphase, Option.toList_some, List.append_nil]
        exact ⟨trivial, trivial⟩
      · rw [Call.move, step, hnext]
        simp only [computed, afterCall, Option.toList_none, List.append_nil]
        exact ⟨trivial, trivial⟩

/-- **Progress.**  A call that computes a token leaves no place to go on from, or one further on. -/
theorem place_lt_of_computed {call : Call} {n : Nat}
    (hmore : z.computed.length < (z.step call.move).computed.length)
    (hn : (z.step call.move).cursor.offset = some n) :
    ∃ place, z.cursor.offset = some place ∧ place < n := by
  obtain ⟨hcomputed, hoffset⟩ := computed_step z call
  rw [hcomputed, computed, List.length_append, List.length_append] at hmore
  rw [hoffset] at hn
  rcases z.cursor.settle_cases z.text with ⟨-, hc⟩ | ⟨-, -, hc⟩ | ⟨place, -, -, -, hc⟩
    | ⟨place, p, -, hoff, hpull, hc⟩
  · rw [hc] at hmore
    exact absurd hmore (Nat.lt_irrefl _)
  · rw [hc] at hn
    exact absurd hn (by simp)
  · rw [hc] at hn
    exact absurd hn (by simp)
  · rw [hc] at hn
    exact ⟨place, hoff, (Splitter.pull_next hpull hn).1⟩

/-- **Done is done.**  A cursor without a token left is not changed by any move, not even by a buffer
that grows. -/
theorem cursor_run_of_done (hdone : z.cursor.phase = .done) (later : List Move) :
    (z.run later).cursor = z.cursor := by
  refine run_induction (P := fun y => y.cursor = z.cursor) (fun y move hy => ?_) rfl later
  have hsettle : y.cursor.settle y.text = y.cursor := by
    rw [hy, Cursor.settle, hdone]
  cases move with
  | append more => exact hy
  | hasNext =>
      rw [step, Cursor.hasNext_snd, hsettle]
      exact hy
  | next =>
      rcases y.cursor.next_eq y.text with ⟨token, hphase, -⟩ | ⟨-, hnext⟩
      · rw [hsettle, hy, hdone] at hphase
        exact absurd hphase (by simp)
      · rw [step, hnext, hsettle]
        exact hy

end Session

/-- **The protocol of a cursor.**  Take any splitter, any text and any sequence of calls, and look at
the cursor afterwards.

* If the calls have asked for a token so many times, then the cursor has handed out so many of the
  first tokens of the text, each once and in order; the next request gives the one behind them, or
  nothing once there is none.
* The cursor says that it has a token exactly if one has not been handed out.  Such questions do not
  count among the requests, so they hand out nothing.
* It is ready exactly if it holds a token, and that token is the next one.  The first of these is no
  invariant of the calls: a phase carries the token that goes with it, so no cursor is ready without
  one or holds one that is not ready.
* Once it is done it has no place to go on from, and nothing changes it any more.
* A place to go on from lies in the text, and a call that computes a token moves it forward or takes
  it away.
* A number of tokens still allowed lies between one and the limit. -/
theorem run_calls (s : Splitter) (text : List Char) (calls : List Call) :
    let tokens := s.tokens text
    let z := (Session.start s text).run (calls.map Call.move)
    let asked := calls.count .next
    z.handed = tokens.take asked
      ∧ (z.cursor.next text).1 = tokens[asked]?
      ∧ ((z.cursor.hasNext text).1 = true ↔ asked < tokens.length)
      ∧ ((∃ token, z.cursor.phase = .ready token) ↔ z.cursor.held ≠ [])
      ∧ (∀ token ∈ z.cursor.held, tokens[asked]? = some token)
      ∧ (z.cursor.phase = .done →
          z.cursor.offset = none ∧ ∀ later, (z.run later).cursor = z.cursor)
      ∧ (∀ place, z.cursor.offset = some place → place ≤ text.length)
      ∧ (∀ call n, z.computed.length < (z.step (Call.move call)).computed.length →
          (z.step (Call.move call)).cursor.offset = some n →
          ∃ place, z.cursor.offset = some place ∧ place < n)
      ∧ (∀ r, z.cursor.left = some r → ∃ k, s.limit = some k ∧ 1 ≤ r ∧ r ≤ k.1) := by
  intro tokens z asked
  obtain ⟨hsound, hhanded, hleft⟩ := Session.run_start s text calls
  obtain ⟨hnext, hhas⟩ := z.cursor.answers text
  refine ⟨hhanded, ?_, ?_, Cursor.ready_iff_held, ?_,
    fun hdone => ⟨hsound.done hdone, Session.cursor_run_of_done hdone⟩, hsound.inside,
    fun call n => Session.place_lt_of_computed, hsound.allowed⟩
  · rw [hnext, hleft, List.head?_drop]
  · rw [hhas, hleft, Bool.not_eq_true', List.isEmpty_eq_false_iff, ne_eq, List.drop_eq_nil_iff,
      Nat.not_le]
  · intro token htoken
    rw [← List.head?_drop, ← hleft, Cursor.remaining, Cursor.mem_held.1 htoken]
    rfl

end TextSplit
