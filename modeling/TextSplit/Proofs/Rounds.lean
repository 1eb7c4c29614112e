import TextSplit.Proofs.Delivery
import TextSplit.Proofs.Reading
import TextSplit.Proofs.TokenCount

/-!
# The scan, round by round

`Splitter.pull` ends because it is defined that way: the piece behind a dropped one starts further
right, and the boundary behind one that is passed over is looked up on the spot.  A scan that goes round
by round has less to hold on to.  It keeps two places, where the next boundary is looked for and where
the piece starts, and a round may move only one of them: an empty boundary moves the search and leaves
the piece, and a dropped piece that ends where the search began moves the piece and leaves the search.
Both together never stand still.

* `Scan`, `Round` — the two places, and what a round comes to.
* `Splitter.finish`, `Splitter.round`, `Splitter.rounds` — the loop, with its reads made one by one; a
  round that asks or reads outside the text has no result.
* `Scan.Sound` — the invariant: a boundary has been passed over only where an empty one lies.
* `Scan.ahead`, `Splitter.Reaches` — the places still ahead of the two, and what rounds come to: the pull,
  or a sound scan with fewer places ahead.
* **`reaches_round`**, **`reaches_rounds`** — one round, and any number of them; `Reaches.eq_ended` — enough.
* **`Session.scan_total`** — every pull of every cursor ends, inside the text, and so does the cursor.
-/

namespace TextSplit

/-- Where a scan stands. -/
structure Scan where
  /-- The next boundary is looked for from here on. -/
  place : Nat
  /-- The piece starts here. -/
  start : Nat
  deriving DecidableEq, Repr, Inhabited

/-- What a round of a scan comes to. -/
inductive Round where
  /-- The scan goes on. -/
  | again (scan : Scan)
  /-- It is over, with a token or without one. -/
  | ended (pull : Option Pull)
  deriving DecidableEq, Repr, Inhabited

/-- The places of the text that lie ahead of a scan, counted for each of the two it keeps. -/
def Scan.ahead (z : Scan) (text : List Char) : Nat :=
  (text.length - z.place) + (text.length - z.start)

variable [PatternSearch]

namespace Splitter

/-! ## The loop -/

/-- A piece whose end has been found is trimmed.  If it is dropped, the scan goes on behind it, as far as
there is something behind it; otherwise it is the token. -/
def finish (s : Splitter) (text : List Char) (left : Option Nat) (c : Cut) : Option Round :=
  (readSpan s.trimmer text c.start c.stop).bind fun span =>
    if s.keeps span then
      if left = some 1 then
        (readSpanEnd s.trimmer text span.1 text.length).map fun last =>
          .ended (some ⟨stretch text span.1 last, none, left⟩)
      else
        some (.ended (some ⟨spanText text span, c.next, left.map (· - 1)⟩))
    else
      match c.next with
      | none => some (.ended none)
      | some n => some (.again ⟨n, n⟩)

/-- One round: a boundary is asked for.  If it is empty and lies where the piece starts, the search moves
on by one character, and at the end of the text the scan is over; otherwise the piece ends there. -/
def round (s : Splitter) (text : List Char) (left : Option Nat) (z : Scan) : Option Round :=
  (s.delimiter.ask text z.place).bind fun
    | none => s.finish text left ⟨z.start, text.length, none⟩
    | some (stop, next) =>
      if next = z.start then
        if z.start < text.length then some (.again ⟨z.start + 1, z.start⟩) else some (.ended none)
      else
        s.finish text left ⟨z.start, stop, some next⟩

/-- At most so many rounds. -/
def rounds (s : Splitter) (text : List Char) (left : Option Nat) : Nat → Scan → Option Round
  | 0, z => some (.again z)
  | n + 1, z => (s.round text left z).bind fun
    | .again next => rounds s text left n next
    | .ended pull => some (.ended pull)

end Splitter

/-- **The invariant.**  A scan begins with both places together, inside the text.  Later the search can be
one character ahead, and then an empty boundary lies where the piece starts. -/
inductive Scan.Sound (d : Delimiter) (text : List Char) : Scan → Prop
  | fresh {start : Nat} (inside : start ≤ text.length) : Sound d text ⟨start, start⟩
  | passed {start : Nat} (inside : start < text.length)
      (empty : d.locate text start = some (start, start)) : Sound d text ⟨start + 1, start⟩

/-! What a sound scan knows: its places lie in order inside the text, and the boundary that it asks for
is the one that ends its piece. -/

namespace Scan.Sound

variable {d : Delimiter} {text : List Char} {z : Scan} {stop next : Nat}

lemma place_le (h : z.Sound d text) : z.place ≤ text.length := by
  cases h with
  | fresh inside => exact inside
  | passed inside => exact inside

lemma start_le (h : z.Sound d text) : z.start ≤ z.place := by
  cases h with
  | fresh => exact Nat.le_refl _
  | passed => exact Nat.le_succ _

lemma cut_of_none (h : z.Sound d text) (hl : d.locate text z.place = none) :
    d.cut text z.start = some ⟨z.start, text.length, none⟩ := by
  cases h with
  | fresh => simp only [Delimiter.cut, hl]
  | passed inside empty => simp only [Delimiter.cut, empty, if_true, if_pos inside, hl]

lemma cut_of_some (h : z.Sound d text) (hl : d.locate text z.place = some (stop, next))
    (hnext : next ≠ z.start) : d.cut text z.start = some ⟨z.start, stop, some next⟩ := by
  cases h with
  | fresh => simp only [Delimiter.cut, hl, if_neg hnext]
  | passed inside empty => simp only [Delimiter.cut, empty, if_true, if_pos inside, hl]

end Scan.Sound

namespace Splitter

variable {s : Splitter} {text : List Char} {left : Option Nat} {c : Cut} {z : Scan} {n : Nat}

/-- **What rounds come to.**  From a scan, `n` rounds lead to the end, with the pull from where the piece
starts; or to a sound scan that leads to the same end, with at least `n` places fewer ahead. -/
inductive Reaches (s : Splitter) (text : List Char) (left : Option Nat) (z : Scan) (n : Nat) :
    Option Round → Prop
  | ended : Reaches s text left z n (some (.ended (s.pull text z.start left)))
  | again {next : Scan} (sound : next.Sound s.delimiter text)
      (fewer : next.ahead text + n ≤ z.ahead text)
      (same : s.pull text next.start left = s.pull text z.start left) :
      Reaches s text left z n (some (.again next))

namespace Reaches

variable {r : Option Round}

lemma ne_none (h : s.Reaches text left z n r) : r ≠ none := by
  cases h with
  | ended => exact Option.some_ne_none _
  | again => exact Option.some_ne_none _

/-- With more rounds than places ahead, the scan is over. -/
lemma eq_ended (h : s.Reaches text left z n r) (hn : z.ahead text < n) :
    r = some (.ended (s.pull text z.start left)) := by
  cases h with
  | ended => rfl
  | again sound fewer => omega

/-- A scan that goes on is sound, and the rounds have used up places. -/
lemma sound_of_again {next : Scan} (h : s.Reaches text left z n (some (.again next))) :
    next.Sound s.delimiter text ∧ next.ahead text + n ≤ z.ahead text := by
  cases h with
  | again sound fewer => exact ⟨sound, fewer⟩

/-- Rounds after rounds. -/
lemma trans {next : Scan} {m : Nat} (h : s.Reaches text left z m (some (.again next)))
    (hr : s.Reaches text left next n r) : s.Reaches text left z (m + n) r := by
  cases h with
  | again sound fewer same =>
      cases hr with
      | ended =>
          rw [same]
          exact .ended
      | again sound' fewer' same' => exact .again sound' (by omega) (same'.trans same)

end Reaches

/-! ## One round -/

/-- **What becomes of a piece.**  The pull from its start gives the token, or the scan goes on behind the
piece and the pull from there gives the same. -/
lemma finish_cases (left : Option Nat) (hc : s.delimiter.cut text c.start = some c)
    (hord : c.start ≤ c.stop) (hin : c.stop ≤ text.length) :
    s.finish text left c = some (.ended (s.pull text c.start left))
      ∨ ∃ n, c.next = some n ∧ s.finish text left c = some (.again ⟨n, n⟩)
        ∧ s.pull text n left = s.pull text c.start left := by
  have hspan := span_inside (s := s) hord hin
  have hread : readSpan s.trimmer text c.start c.stop = some (s.span text c) := readSpan_eq hord hin
  have hlast : readSpanEnd s.trimmer text (s.span text c).1 text.length
      = some (trimSpanEnd s.trimmer text (s.span text c).1 text.length) :=
    readSpanEnd_eq (hspan.1.trans hspan.2) (Nat.le_refl _)
  rw [finish, hread, Option.bind_some, hlast, pull_of_cut hc]
  split_ifs with hkeep hleft
  · exact Or.inl rfl
  · exact Or.inl rfl
  · rcases c.next with _ | n
    · exact Or.inl rfl
    · exact Or.inr ⟨n, rfl, rfl, rfl⟩

/-- A round that finishes a piece moves both places behind it, or is the last. -/
lemma reaches_finish (hc : s.delimiter.cut text z.start = some c) (hstart : c.start = z.start)
    (hord : c.start ≤ c.stop) (hin : c.stop ≤ text.length)
    (hnext : ∀ m, c.next = some m → z.place ≤ m) :
    s.Reaches text left z 1 (s.finish text left c) := by
  rw [← hstart] at hc
  rcases finish_cases left hc hord hin with hended | ⟨m, hm, hagain, hpull⟩
  · rw [hended, hstart]
    exact .ended
  · have hplace := hnext m hm
    have hforward := Delimiter.cut_next hc hm
    rw [hagain]
    refine .again (.fresh hforward.2) ?_ (by rw [hpull, hstart])
    simp only [Scan.ahead]
    omega

/-- An empty boundary where the piece starts moves the search and leaves the piece, unless the text ends
there. -/
lemma reaches_pass {start : Nat} (hl : s.delimiter.locate text start = some (start, start)) :
    s.Reaches text left ⟨start, start⟩ 1
      (if start < text.length then some (.again ⟨start + 1, start⟩) else some (.ended none)) := by
  split_ifs with hlt
  · refine .again (.passed hlt hl) ?_ rfl
    simp only [Scan.ahead]
    omega
  · have hc : s.delimiter.cut text start = none := by
      simp only [Delimiter.cut, hl, if_true, if_neg hlt]
    rw [← pull_of_cut_eq_none hc]
    exact .ended

/-- **One round** from a sound scan ends it or uses up a place. -/
theorem reaches_round (left : Option Nat) (h : z.Sound s.delimiter text) :
    s.Reaches text left z 1 (s.round text left z) := by
  rw [round, Delimiter.ask_eq h.place_le, Option.bind_some]
  rcases hl : s.delimiter.locate text z.place with _ | ⟨stop, next⟩
  · exact reaches_finish (h.cut_of_none hl) rfl (h.start_le.trans h.place_le) (Nat.le_refl _) (by simp)
  · have hle := Delimiter.le_of_locate hl
    by_cases hnext : next = z.start
    · -- nothing has been passed over yet, or the search would stand behind this boundary
      have hplace : z.place = z.start := Nat.le_antisymm (hnext ▸ hle.1.trans hle.2.1) h.start_le
      obtain ⟨place, start⟩ := z
      obtain rfl : place = start := hplace
      obtain rfl : next = place := hnext
      obtain rfl : stop = next := Nat.le_antisymm hle.2.1 hle.1
      simp only [if_true]
      exact reaches_pass hl
    · simp only [if_neg hnext]
      refine reaches_finish (h.cut_of_some hl hnext) rfl (h.start_le.trans hle.1)
        (hle.2.1.trans hle.2.2) fun m hm => ?_
      obtain rfl := Option.some.inj hm
      exact hle.1.trans hle.2.1

/-! ## Any number of rounds -/

/-- **Any number of rounds** ends the scan or uses up as many places.  The induction is on the rounds, with
the scan generalized. -/
theorem reaches_rounds (left : Option Nat) (h : z.Sound s.delimiter text) (n : Nat) :
    s.Reaches text left z n (s.rounds text left n z) := by
  induction n generalizing z with
  | zero => exact .again h (Nat.le_refl _) rfl
  | succ n ih =>
      have hround := reaches_round left h
      rw [rounds]
      rcases hr : s.round text left z with _ | next | pull
      · exact absurd hr hround.ne_none
      · rw [hr] at hround
        rw [Nat.add_comm]
        exact hround.trans (ih hround.sound_of_again.1)
      · rw [hr] at hround
        cases hround with
        | ended => exact .ended

end Splitter

/-! ## Every pull of a cursor -/

/-- **Scanning is total.**  Take any splitter, any text, any search and any calls on a new cursor, and let
the next pull start where the cursor stands.

* No number of rounds asks for a boundary or reads a character outside the text.
* As long as the scan goes on, the search stands inside the text, and there have been at most two rounds
  for every place from the start of the pull on.
* One round more, and the scan is over, with the pull.

The cursor hands out at most one token more than the text has characters.  Once it has been asked for so
many, it has handed out all tokens, and gives no other. -/
theorem Session.scan_total (s : Splitter) (text : List Char) (calls : List Call) :
    let z := (Session.start s text).run (calls.map Call.move)
    (∀ place, z.cursor.offset = some place →
        (∀ n, s.rounds text z.cursor.left n ⟨place, place⟩ ≠ none)
        ∧ (∀ n scan, s.rounds text z.cursor.left n ⟨place, place⟩ = some (.again scan) →
          scan.start ≤ scan.place ∧ scan.place ≤ text.length ∧ n ≤ 2 * (text.length - place))
        ∧ s.rounds text z.cursor.left (2 * (text.length - place) + 1) ⟨place, place⟩
          = some (.ended (s.pull text place z.cursor.left)))
      ∧ z.handed.length ≤ text.length + 1
      ∧ (text.length + 1 ≤ calls.count .next →
        z.handed = s.tokens text ∧ (z.cursor.next text).1 = none) := by
  intro z
  obtain ⟨hsound, hhanded, hleft⟩ := Session.run_start s text calls
  have hcount := s.length_tokens_le text
  refine ⟨fun place hplace => ?_, ?_, fun hmany => ?_⟩
  · have hfresh : Scan.Sound s.delimiter text ⟨place, place⟩ := .fresh (hsound.inside place hplace)
    have hahead : Scan.ahead ⟨place, place⟩ text = 2 * (text.length - place) := by
      simp only [Scan.ahead]
      omega
    have hreaches := fun n => Splitter.reaches_rounds z.cursor.left hfresh n
    refine ⟨fun n => (hreaches n).ne_none, fun n scan hagain => ?_, (hreaches _).eq_ended (by omega)⟩
    obtain ⟨hscan, hfewer⟩ := (hagain ▸ hreaches n).sound_of_again
    exact ⟨hscan.start_le, hscan.place_le, by omega⟩
  · rw [hhanded, List.length_take]
    omega
  · refine ⟨?_, ?_⟩
    · rw [hhanded, List.take_of_length_le (by omega)]
    · rw [(z.cursor.answers text).1, hleft, List.drop_eq_nil_of_le (by omega)]
      rfl

end TextSplit
