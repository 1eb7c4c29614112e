import TextSplit.Pattern.Tree

/-!
# Matching a pattern

A match is found by backtracking: choices are tried in the order in which the pattern writes them,
and a choice stands if the rest of the pattern then matches.  The rest is handed to each part as a
continuation.

* `Spot` — a place of the text with what the groups have matched so far.
* `run` — matches a tree at a spot and continues with the rest.
* `matchAt` — the end of the match at a place, if there is one.
* `searchFrom` — the leftmost match at or behind a place.
* `run_spec` — a match only ever moves right, and stays inside the text.
-/

namespace TextSplit.Pattern

/-- A place of the text, and the spans that the groups matched last, the latest first. -/
structure Spot where
  pos : Nat
  groups : List (Nat × (Nat × Nat))
  deriving Repr, Inhabited

/-- The rest of a pattern: where a match ends if it can go on from a spot. -/
abbrev Rest := Spot → Option Spot

/-! ## Repetition -/

/-- Rounds of a greedy repetition, after `done` of them.  Past the least number a round must begin
at a place where the one before it did not, so a round that takes nothing is the last. -/
def roundsGreedy (body : Spot → Rest → Option Spot) (min : Nat) (max : Option Nat) :
    Nat → Nat → Option Nat → Spot → Rest → Option Spot
  | 0, _, _, spot, rest => rest spot
  | fuel + 1, done, last, spot, rest =>
    if done < min then
      body spot fun next => roundsGreedy body min max fuel (done + 1) last next rest
    else if max.all (done < ·) && last != some spot.pos then
      match body spot fun next =>
          roundsGreedy body min max fuel (done + 1) (some spot.pos) next rest with
      | some found => some found
      | none => rest spot
    else
      rest spot

/-- Rounds of a lazy repetition: the rest is tried before each further round. -/
def roundsLazy (body : Spot → Rest → Option Spot) (min : Nat) (max : Option Nat) :
    Nat → Nat → Option Nat → Spot → Rest → Option Spot
  | 0, _, _, spot, rest => rest spot
  | fuel + 1, done, last, spot, rest =>
    if done < min then
      body spot fun next => roundsLazy body min max fuel (done + 1) last next rest
    else
      match rest spot with
      | some found => some found
      | none =>
        if max.all (done < ·) && last != some spot.pos then
          body spot fun next =>
            roundsLazy body min max fuel (done + 1) (some spot.pos) next rest
        else
          none

/-- Rounds of a possessive repetition: each is settled as soon as it matches. -/
def roundsPossessive (body : Spot → Rest → Option Spot) (min : Nat) (max : Option Nat) :
    Nat → Nat → Option Nat → Spot → Option Spot
  | 0, _, _, spot => some spot
  | fuel + 1, done, last, spot =>
    if done < min then
      match body spot some with
      | some next => roundsPossessive body min max fuel (done + 1) last next
      | none => none
    else if max.all (done < ·) && last != some spot.pos then
      match body spot some with
      | some next => roundsPossessive body min max fuel (done + 1) (some spot.pos) next
      | none => some spot
    else
      some spot

/-! ## Trees -/

/-- Whether two stretches of a text are equal up to case. -/
def sameStretch (rule : CaseRule) (text : Array Char) (first second length : Nat) : Bool :=
  let key : Char → Nat := match rule with
    | .exact => Char.toNat
    | .ignore letters => fun c => letters.lower c.toNat
  (List.range length).all fun i =>
    (text[first + i]?).map key == (text[second + i]?).map key

/-- Matches a tree at a spot, and the rest behind it.  The fuel of a repetition covers the rounds
it must make and one for every place that is left. -/
def run (text : Array Char) : Tree → Spot → Rest → Option Spot
  | .empty, spot, rest => rest spot
  | .one set, spot, rest =>
    match text[spot.pos]? with
    | some c => if set.accepts c then rest { spot with pos := spot.pos + 1 } else none
    | none => none
  | .anchor place, spot, rest => if place.holds text spot.pos then rest spot else none
  | .seq a b, spot, rest => run text a spot fun next => run text b next rest
  | .alt a b, spot, rest =>
    match run text a spot rest with
    | some found => some found
    | none => run text b spot rest
  | .rounds min max greed body, spot, rest =>
    let fuel := min + (text.size - spot.pos) + 2
    match greed with
    | .greedy => roundsGreedy (run text body) min max fuel 0 none spot rest
    | .lazy => roundsLazy (run text body) min max fuel 0 none spot rest
    | .possessive =>
      match roundsPossessive (run text body) min max fuel 0 none spot with
      | some next => rest next
      | none => none
  | .capture group body, spot, rest =>
    run text body spot fun next =>
      rest { next with groups := (group, (spot.pos, next.pos)) :: next.groups }
  | .same group rule, spot, rest =>
    match spot.groups.lookup group with
    | none => none
    | some (first, last) =>
      let length := last - first
      if spot.pos + length ≤ text.size && sameStretch rule text first spot.pos length then
        rest { spot with pos := spot.pos + length }
      else
        none
  | .lookAhead negated body, spot, rest =>
    match run text body spot some with
    | some found => if negated then none else rest { found with pos := spot.pos }
    | none => if negated then rest spot else none
  | .lookBehind width _ negated body, spot, rest =>
    if width ≤ spot.pos then
      match run text body { spot with pos := spot.pos - width } some with
      | some found => if negated then none else rest { found with pos := spot.pos }
      | none => if negated then rest spot else none
    else if negated then rest spot
    else none
  | .atomic body, spot, rest =>
    match run text body spot some with
    | some found => rest found
    | none => none
  | .ifGroup group yes no, spot, rest =>
    if (spot.groups.lookup group).isSome then run text yes spot rest else run text no spot rest

/-- The end of the match of a tree at a place. -/
def matchAt (tree : Tree) (text : Array Char) (pos : Nat) : Option Nat :=
  (run text tree ⟨pos, []⟩ some).map Spot.pos

/-- The leftmost match that starts at or behind a place. -/
def searchFrom (tree : Tree) (text : Array Char) (pos : Nat) : Option (Nat × Nat) :=
  if pos ≤ text.size then
    match matchAt tree text pos with
    | some stop => some (pos, stop)
    | none => searchFrom tree text (pos + 1)
  else
    none
termination_by text.size + 1 - pos

/-! ## Matches stay inside the text -/

/-- A matcher that hands to its rest only spots at or behind its own, inside the text. -/
def Forward (size : Nat) (body : Spot → Rest → Option Spot) : Prop :=
  ∀ (spot : Spot) (rest : Rest) (found : Spot), spot.pos ≤ size → body spot rest = some found →
    ∃ next : Spot, spot.pos ≤ next.pos ∧ next.pos ≤ size ∧ rest next = some found

theorem forward_roundsGreedy {size : Nat} {body : Spot → Rest → Option Spot}
    (h : Forward size body) (min : Nat) (max : Option Nat) (fuel done : Nat) (last : Option Nat) :
    Forward size (roundsGreedy body min max fuel done last) := by
  induction fuel generalizing done last with
  | zero => intro spot rest found hs hr; exact ⟨spot, Nat.le_refl _, hs, hr⟩
  | succ fuel ih =>
    intro spot rest found hs hr
    simp only [roundsGreedy] at hr
    split at hr
    · obtain ⟨mid, h1, h2, h3⟩ := h _ _ _ hs hr
      obtain ⟨next, h4, h5, h6⟩ := ih _ _ _ _ _ h2 h3
      exact ⟨next, Nat.le_trans h1 h4, h5, h6⟩
    · split at hr
      · split at hr
        · rename_i other hbody
          obtain ⟨mid, h1, h2, h3⟩ := h _ _ _ hs hbody
          obtain ⟨next, h4, h5, h6⟩ := ih _ _ _ _ _ h2 h3
          exact ⟨next, Nat.le_trans h1 h4, h5, by rw [h6, ← hr]⟩
        · exact ⟨spot, Nat.le_refl _, hs, hr⟩
      · exact ⟨spot, Nat.le_refl _, hs, hr⟩

theorem forward_roundsLazy {size : Nat} {body : Spot → Rest → Option Spot}
    (h : Forward size body) (min : Nat) (max : Option Nat) (fuel done : Nat) (last : Option Nat) :
    Forward size (roundsLazy body min max fuel done last) := by
  induction fuel generalizing done last with
  | zero => intro spot rest found hs hr; exact ⟨spot, Nat.le_refl _, hs, hr⟩
  | succ fuel ih =>
    intro spot rest found hs hr
    simp only [roundsLazy] at hr
    split at hr
    · obtain ⟨mid, h1, h2, h3⟩ := h _ _ _ hs hr
      obtain ⟨next, h4, h5, h6⟩ := ih _ _ _ _ _ h2 h3
      exact ⟨next, Nat.le_trans h1 h4, h5, h6⟩
    · split at hr
      · rename_i other hrest
        exact ⟨spot, Nat.le_refl _, hs, by rw [hrest, ← hr]⟩
      · split at hr
        · obtain ⟨mid, h1, h2, h3⟩ := h _ _ _ hs hr
          obtain ⟨next, h4, h5, h6⟩ := ih _ _ _ _ _ h2 h3
          exact ⟨next, Nat.le_trans h1 h4, h5, h6⟩
        · simp at hr

theorem le_roundsPossessive {size : Nat} {body : Spot → Rest → Option Spot}
    (h : Forward size body) (min : Nat) (max : Option Nat) (fuel done : Nat) (last : Option Nat)
    (spot found : Spot) (hs : spot.pos ≤ size)
    (hr : roundsPossessive body min max fuel done last spot = some found) :
    spot.pos ≤ found.pos ∧ found.pos ≤ size := by
  induction fuel generalizing done last spot with
  | zero =>
    simp only [roundsPossessive, Option.some.injEq] at hr
    subst hr
    exact ⟨Nat.le_refl _, hs⟩
  | succ fuel ih =>
    have step : ∀ mid, body spot some = some mid → spot.pos ≤ mid.pos ∧ mid.pos ≤ size := by
      intro mid hmid
      obtain ⟨next, h1, h2, h3⟩ := h _ _ _ hs hmid
      simp only [Option.some.injEq] at h3
      subst h3
      exact ⟨h1, h2⟩
    simp only [roundsPossessive] at hr
    split at hr
    · split at hr
      · rename_i mid hmid
        have := step _ hmid
        have := ih _ _ _ this.2 hr
        omega
      · simp at hr
    · split at hr
      · split at hr
        · rename_i mid hmid
          have := step _ hmid
          have := ih _ _ _ this.2 hr
          omega
        · simp only [Option.some.injEq] at hr
          subst hr
          exact ⟨Nat.le_refl _, hs⟩
      · simp only [Option.some.injEq] at hr
        subst hr
        exact ⟨Nat.le_refl _, hs⟩

/-- **Matches move right.**  Whatever a tree hands to the rest of the pattern lies at or behind
the place where it started, and not behind the end of the text. -/
theorem run_spec (text : Array Char) (tree : Tree) : Forward text.size (run text tree) := by
  induction tree with
  | empty => intro spot rest found hs hr; exact ⟨spot, Nat.le_refl _, hs, hr⟩
  | one set =>
    intro spot rest found hs hr
    simp only [run] at hr
    split at hr
    · rename_i c hc
      split at hr
      · have : spot.pos < text.size := by
          rcases Nat.lt_or_ge spot.pos text.size with h | h
          · exact h
          · simp [Array.getElem?_eq_none h] at hc
        exact ⟨{ spot with pos := spot.pos + 1 }, Nat.le_succ _, this, hr⟩
      · simp at hr
    · simp at hr
  | anchor place =>
    intro spot rest found hs hr
    simp only [run] at hr
    split at hr
    · exact ⟨spot, Nat.le_refl _, hs, hr⟩
    · simp at hr
  | seq a b iha ihb =>
    intro spot rest found hs hr
    obtain ⟨mid, h1, h2, h3⟩ := iha _ _ _ hs hr
    obtain ⟨next, h4, h5, h6⟩ := ihb _ _ _ h2 h3
    exact ⟨next, Nat.le_trans h1 h4, h5, h6⟩
  | alt a b iha ihb =>
    intro spot rest found hs hr
    simp only [run] at hr
    split at hr
    · rename_i other hother
      rw [← hr]
      exact iha _ _ _ hs hother
    · exact ihb _ _ _ hs hr
  | rounds min max greed body ih =>
    intro spot rest found hs hr
    simp only [run] at hr
    split at hr
    · exact forward_roundsGreedy ih _ _ _ _ _ _ _ _ hs hr
    · exact forward_roundsLazy ih _ _ _ _ _ _ _ _ hs hr
    · split at hr
      · rename_i next hnext
        have := le_roundsPossessive ih _ _ _ _ _ _ _ hs hnext
        exact ⟨next, this.1, this.2, hr⟩
      · simp at hr
  | capture group body ih =>
    intro spot rest found hs hr
    obtain ⟨next, h1, h2, h3⟩ := ih _ _ _ hs hr
    exact ⟨{ next with groups := (group, (spot.pos, next.pos)) :: next.groups }, h1, h2, h3⟩
  | same group rule =>
    intro spot rest found hs hr
    simp only [run] at hr
    split at hr
    · simp at hr
    · split at hr
      · rename_i hcond
        simp only [Bool.and_eq_true, decide_eq_true_eq] at hcond
        exact ⟨{ spot with pos := _ }, Nat.le_add_right _ _, hcond.1, hr⟩
      · simp at hr
  | lookAhead negated body ih =>
    intro spot rest found hs hr
    simp only [run] at hr
    split at hr
    · rename_i seen hseen
      split at hr
      · simp at hr
      · exact ⟨{ seen with pos := spot.pos }, Nat.le_refl _, hs, hr⟩
    · split at hr
      · exact ⟨spot, Nat.le_refl _, hs, hr⟩
      · simp at hr
  | lookBehind width greatest negated body ih =>
    intro spot rest found hs hr
    simp only [run] at hr
    split at hr
    · split at hr
      · rename_i seen hseen
        split at hr
        · simp at hr
        · exact ⟨{ seen with pos := spot.pos }, Nat.le_refl _, hs, hr⟩
      · split at hr
        · exact ⟨spot, Nat.le_refl _, hs, hr⟩
        · simp at hr
    · split at hr
      · exact ⟨spot, Nat.le_refl _, hs, hr⟩
      · simp at hr
  | atomic body ih =>
    intro spot rest found hs hr
    simp only [run] at hr
    split at hr
    · rename_i mid hmid
      obtain ⟨next, h1, h2, h3⟩ := ih _ _ _ hs hmid
      simp only [Option.some.injEq] at h3
      subst h3
      exact ⟨next, h1, h2, hr⟩
    · simp at hr
  | ifGroup group yes no ihy ihn =>
    intro spot rest found hs hr
    simp only [run] at hr
    split at hr
    · exact ihy _ _ _ hs hr
    · exact ihn _ _ _ hs hr

/-- A match ends at or behind its start, inside the text. -/
theorem le_of_matchAt {tree : Tree} {text : Array Char} {pos stop : Nat} (hs : pos ≤ text.size)
    (h : matchAt tree text pos = some stop) : pos ≤ stop ∧ stop ≤ text.size := by
  obtain ⟨found, hr, rfl⟩ := Option.map_eq_some_iff.1 h
  obtain ⟨next, h1, h2, h3⟩ := run_spec text tree _ _ _ hs hr
  simp only [Option.some.injEq] at h3
  subst h3
  exact ⟨h1, h2⟩

/-- A search answers with a match that starts at or behind the place asked for. -/
theorem le_of_searchFrom {tree : Tree} {text : Array Char} {pos start stop : Nat}
    (h : searchFrom tree text pos = some (start, stop)) :
    pos ≤ start ∧ start ≤ stop ∧ stop ≤ text.size := by
  fun_induction searchFrom tree text pos with
  | case1 pos hpos stop' hm =>
    simp only [Option.some.injEq, Prod.mk.injEq] at h
    obtain ⟨rfl, rfl⟩ := h
    have := le_of_matchAt hpos hm
    omega
  | case2 pos hpos hm ih =>
    have := ih h
    omega
  | case3 pos hpos => simp at h

end TextSplit.Pattern
