import TextSplit.Cursor
import TextSplit.Proofs.Scan

/-!
# A buffer and a cursor on it

The text is given to a cursor anew on every call.  A session puts the two together: a buffer that
may grow, one cursor that reads it, and a record of what the cursor has done so far.

* `Move`, `Session`, `Session.step`, `Session.run` — appends and calls in any order.
* `Cursor.settle_cases`, `Cursor.next_eq` — what a call can do to a cursor.
* `Cursor.held`, `Session.computed` — the tokens that have been computed: those handed out, and the
  one held ready; `Cursor.mem_held`, `Cursor.ready_iff_held` — a token is held exactly if the cursor
  is ready with it.
* `Session.closing` — what the buffer held when the last token was cut.
* `Session.step_of_closed` — a cursor without a place to go on from never gets one again.
* **`Session.run_induction`** — what holds at the start and is kept by every move holds always.
-/

namespace TextSplit

/-- What can happen to a buffer and to the cursor that reads it. -/
inductive Move where
  /-- The buffer grows. -/
  | append (more : List Char)
  /-- The cursor is asked whether there is a token. -/
  | hasNext
  /-- The cursor is asked for a token. -/
  | next
  deriving DecidableEq, Repr, Inhabited

namespace Cursor

/-- The token that a cursor holds ready. -/
def held (c : Cursor) : List (List Char) :=
  match c.phase with
  | .ready token => [token]
  | _ => []

/-- A cursor holds a token exactly if it is ready with it. -/
lemma mem_held {c : Cursor} {token : List Char} : token ∈ c.held ↔ c.phase = .ready token := by
  rw [held]
  rcases c.phase with _ | other | _
  · simp
  · simp [eq_comm]
  · simp

/-- A cursor is ready exactly if it holds a token. -/
lemma ready_iff_held {c : Cursor} : (∃ token, c.phase = .ready token) ↔ c.held ≠ [] := by
  simp only [← mem_held]
  exact ⟨fun ⟨_, htoken⟩ => List.ne_nil_of_mem htoken, List.exists_mem_of_ne_nil _⟩

variable [PatternSearch]

/-- **What looking can do.**  A cursor that holds a token, or is done, does not look.  Otherwise it
has no place left to go on from, or there is no token from its place on, or it pulls one. -/
theorem settle_cases (c : Cursor) (text : List Char) :
    (c.phase ≠ .idle ∧ c.settle text = c)
      ∨ (c.phase = .idle ∧ c.offset = none
        ∧ c.settle text = { c with offset := none, phase := .done })
      ∨ (∃ start, c.phase = .idle ∧ c.offset = some start
        ∧ c.splitter.pull text start c.left = none
        ∧ c.settle text = { c with offset := none, phase := .done })
      ∨ (∃ start p, c.phase = .idle ∧ c.offset = some start
        ∧ c.splitter.pull text start c.left = some p
        ∧ c.settle text
          = { c with offset := p.next, left := p.left, phase := .ready p.token }) := by
  rw [settle]
  rcases hphase : c.phase with _ | token | _
  · simp only [look]
    rcases hoff : c.offset with _ | start
    · exact Or.inr (Or.inl ⟨trivial, rfl, rfl⟩)
    · simp only [Option.bind_some]
      rcases hp : c.splitter.pull text start c.left with _ | p
      · exact Or.inr (Or.inr (Or.inl ⟨start, trivial, rfl, hp, rfl⟩))
      · exact Or.inr (Or.inr (Or.inr ⟨start, p, trivial, rfl, hp, rfl⟩))
  · exact Or.inl ⟨by simp, rfl⟩
  · exact Or.inl ⟨by simp, rfl⟩

/-- Asking whether there is a token is looking. -/
lemma hasNext_snd (c : Cursor) (text : List Char) : (c.hasNext text).2 = c.settle text := by
  rw [hasNext]
  split <;> rfl

/-- Asking for a token is looking and then handing out the token that is held. -/
lemma next_eq (c : Cursor) (text : List Char) :
    (∃ token, (c.settle text).phase = .ready token
        ∧ c.next text = (some token, { c.settle text with phase := .idle }))
      ∨ ((c.settle text).held = [] ∧ c.next text = (none, c.settle text)) := by
  rw [next]
  rcases hphase : (c.settle text).phase with _ | token | _
  · exact Or.inr ⟨by rw [held, hphase], rfl⟩
  · exact Or.inl ⟨token, rfl, rfl⟩
  · exact Or.inr ⟨by rw [held, hphase], rfl⟩

end Cursor

/-- A buffer and one cursor on it. -/
structure Session where
  /-- What the buffer holds. -/
  text : List Char
  cursor : Cursor
  /-- The tokens that the cursor has handed out. -/
  handed : List (List Char)
  /-- What the buffer held at the call after which the cursor had no place to go on from. -/
  closing : Option (List Char)

namespace Session

/-- A new cursor on a buffer. -/
def start (s : Splitter) (text : List Char) : Session := ⟨text, Cursor.start s, [], none⟩

instance : Inhabited Session := ⟨start default []⟩

/-- The tokens computed so far. -/
def computed (z : Session) : List (List Char) := z.handed ++ z.cursor.held

/-- The session after a call that leaves the cursor as given.  If the call has taken away the place
to go on from, the buffer is noted. -/
def afterCall (z : Session) (c : Cursor) : Session :=
  { z with
    cursor := c
    closing := if z.cursor.offset.isSome && c.offset.isNone then some z.text else z.closing }

/-- Without a change of the cursor nothing is noted. -/
lemma afterCall_cursor (z : Session) : z.afterCall z.cursor = z := by
  rw [afterCall, if_neg (by cases z.cursor.offset <;> simp)]

variable [PatternSearch]

/-- One move. -/
def step (z : Session) : Move → Session
  | .append more => { z with text := z.text ++ more }
  | .hasNext => z.afterCall (z.cursor.hasNext z.text).2
  | .next =>
    let (token, c) := z.cursor.next z.text
    { z.afterCall c with handed := z.handed ++ token.toList }

/-- Any number of moves, in order. -/
def run (z : Session) (moves : List Move) : Session := moves.foldl step z

/-- A cursor without a place to go on from stays so, and no other text is noted. -/
lemma step_of_closed {z : Session} (h : z.cursor.offset = none) (move : Move) :
    (z.step move).cursor.offset = none ∧ (z.step move).closing = z.closing := by
  have hsettle : (z.cursor.settle z.text).offset = none := by
    rcases z.cursor.settle_cases z.text with ⟨-, hc⟩ | ⟨-, -, hc⟩ | ⟨place, -, hoff, -, -⟩
      | ⟨place, p, -, hoff, -, -⟩
    · rw [hc, h]
    · rw [hc]
    · exact absurd (h.symm.trans hoff) (by simp)
    · exact absurd (h.symm.trans hoff) (by simp)
  cases move with
  | append more => exact ⟨h, rfl⟩
  | hasNext =>
      rw [step, Cursor.hasNext_snd]
      exact ⟨hsettle, by simp [afterCall, h]⟩
  | next =>
      rcases z.cursor.next_eq z.text with ⟨token, -, hnext⟩ | ⟨-, hnext⟩
      · rw [step, hnext]
        exact ⟨hsettle, by simp [afterCall, h]⟩
      · rw [step, hnext]
        exact ⟨hsettle, by simp [afterCall, h]⟩

/-- **Invariants.**  What every move keeps holds after every run. -/
theorem run_induction {P : Session → Prop} (hstep : ∀ z move, P z → P (z.step move))
    {z : Session} (h : P z) (moves : List Move) : P (z.run moves) := by
  induction moves generalizing z with
  | nil => exact h
  | cons move moves ih => exact ih (hstep z move h)

end Session

end TextSplit
