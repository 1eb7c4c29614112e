import TextSplit.Proofs.Reading

/-!
# What trimming leaves of a stretch

Trimming walks into a stretch from both ends.  What it leaves can be said without a walk: whatever has gone
is a trimmed character, and of what is left neither the first nor the last character is one.  If all
characters go, the two ends meet where the stretch stops, not where it starts.  This pins the two places
down.  So trimming is the only way to meet it, and trimming again takes nothing more.

The walks stay inside the stretch.  They need no text, only a reader who tells the character at a place;
and the reader may be blind everywhere else.

* `trimsAt`, `TrimsAll` — the character at a place is a trimmed one, and those between two places are.
* `Leaves` — what is left of a stretch; `Leaves.unique` and `Leaves.self`.
* `CharClass.readStart_stops`, `readEnd_stops` — what a walk has passed, and what has stopped it.
* `leaves_trimSpan` — trimming leaves just that; `lt_trimSpanEnd` — a character that stays stops the right
  end, wherever that end comes from.
* `Knows`, `CharClass.readStartBy`, `readEndBy`, `readSpanBy` — readers, and the walks with any of them;
  `readSpanBy_eq` — one who knows the stretch is enough.
* **`trimSpan_maximal`** — trimming leaves all but the trimmed characters at the ends, and looks nowhere else.
-/

namespace TextSplit

/-! ## What is left -/

/-- The character at a place is one that the trimmer takes off. -/
def trimsAt (trimmer : Option CharClass) (text : List Char) (place : Nat) : Bool :=
  trimmer.any fun k => text[place]?.any k.accepts

lemma trimsAt_of_getElem? {k : CharClass} {text : List Char} {place : Nat} {c : Char}
    (hc : text[place]? = some c) : trimsAt (some k) text place = k.accepts c := by
  rw [trimsAt, Option.any_some, hc, Option.any_some]

/-- All characters between two places are such. -/
def TrimsAll (trimmer : Option CharClass) (text : List Char) (start stop : Nat) : Prop :=
  ∀ place, start ≤ place → place < stop → trimsAt trimmer text place = true

section TrimsAll

variable {trimmer : Option CharClass} {text : List Char} {start stop : Nat}

lemma trimsAll_of_le (h : stop ≤ start) : TrimsAll trimmer text start stop :=
  fun _ hge hlt => absurd (hge.trans_lt hlt) (Nat.not_lt_of_le h)

/-- One character more on the left. -/
lemma TrimsAll.cons (h : TrimsAll trimmer text (start + 1) stop)
    (hhere : trimsAt trimmer text start = true) : TrimsAll trimmer text start stop := by
  intro place hge hlt
  rcases Nat.eq_or_lt_of_le hge with rfl | hgt
  · exact hhere
  · exact h place hgt hlt

/-- One character more on the right. -/
lemma TrimsAll.concat (h : TrimsAll trimmer text start stop)
    (hhere : trimsAt trimmer text stop = true) : TrimsAll trimmer text start (stop + 1) := by
  intro place hge hlt
  rcases Nat.eq_or_lt_of_le (Nat.le_of_lt_succ hlt) with rfl | hlt
  · exact hhere
  · exact h place hge hlt

/-- A character that stays does not lie between the two places. -/
lemma TrimsAll.not_lt (h : TrimsAll trimmer text start stop) {place : Nat} (hge : start ≤ place)
    (hstays : trimsAt trimmer text place = false) : ¬ place < stop :=
  fun hlt => Bool.eq_false_iff.1 hstays (h place hge hlt)

end TrimsAll

/-- **What is left of a stretch** if as much as possible is taken off its ends. -/
structure Leaves (trimmer : Option CharClass) (text : List Char) (start stop : Nat)
    (span : Nat × Nat) : Prop where
  /-- The ends lie in order inside the stretch. -/
  inside : start ≤ span.1 ∧ span.1 ≤ span.2 ∧ span.2 ≤ stop
  /-- Nothing but trimmed characters has gone on the left. -/
  before : TrimsAll trimmer text start span.1
  /-- Nothing but trimmed characters has gone on the right. -/
  behind : TrimsAll trimmer text span.2 stop
  /-- What is left has a character that stays at either end; or nothing is left, at the right end. -/
  ends : (span.1 < span.2 ∧ trimsAt trimmer text span.1 = false
      ∧ trimsAt trimmer text (span.2 - 1) = false)
    ∨ (span.1 = stop ∧ span.2 = stop ∧ TrimsAll trimmer text start stop)

namespace Leaves

variable {trimmer : Option CharClass} {text : List Char} {start stop : Nat} {span other : Nat × Nat}

lemma fst_le (h : Leaves trimmer text start stop span) (h' : Leaves trimmer text start stop other) :
    other.1 ≤ span.1 := by
  rcases h.ends with ⟨-, hstays, -⟩ | ⟨hstop, -, -⟩
  · -- further right, the character that stays would have gone
    exact Nat.le_of_not_lt (h'.before.not_lt h.inside.1 hstays)
  · rw [hstop]
    exact h'.inside.2.1.trans h'.inside.2.2

lemma le_snd (h : Leaves trimmer text start stop span) (h' : Leaves trimmer text start stop other) :
    span.2 ≤ other.2 := by
  rcases h.ends with ⟨hlt, -, hstays⟩ | ⟨hfirst, hlast, -⟩
  · refine Nat.le_of_not_lt fun hother => ?_
    have hin := h.inside
    have hbehind := h'.behind.not_lt (show other.2 ≤ span.2 - 1 by omega) hstays
    omega
  · -- nothing is left: the other left end stands at the right end of the stretch as well
    have hmeet := h'.fst_le h
    have hin := h'.inside
    omega

/-- **What is left is determined.** -/
theorem unique (h : Leaves trimmer text start stop span) (h' : Leaves trimmer text start stop other) :
    span = other :=
  Prod.ext (Nat.le_antisymm (h'.fst_le h) (h.fst_le h')) (Nat.le_antisymm (h.le_snd h') (h'.le_snd h))

/-- What is left is all that is left of itself. -/
lemma self (h : Leaves trimmer text start stop span) :
    Leaves trimmer text span.1 span.2 span where
  inside := ⟨Nat.le_refl _, h.inside.2.1, Nat.le_refl _⟩
  before := trimsAll_of_le (Nat.le_refl _)
  behind := trimsAll_of_le (Nat.le_refl _)
  ends := by
    rcases h.ends with hstays | ⟨hfirst, hlast, -⟩
    · exact Or.inl hstays
    · exact Or.inr ⟨hfirst.trans hlast.symm, rfl, trimsAll_of_le (hlast.trans hfirst.symm).le⟩

end Leaves

/-! ## What a walk has passed -/

namespace CharClass

variable {k : CharClass} {text : List Char} {start stop first last : Nat}

/-- **The left walk** has passed trimmed characters only, and a character that stays has stopped it, unless
the stretch has.  The induction is on the walk. -/
lemma readStart_stops (h : k.readStart text start stop = some first) :
    TrimsAll (some k) text start first
      ∧ (first < stop → trimsAt (some k) text first = false) := by
  fun_induction readStart k text start stop with
  | case1 => simp at h
  | case2 start hlt c hc haccepts ih =>
      obtain ⟨hpassed, hstops⟩ := ih h
      exact ⟨hpassed.cons ((trimsAt_of_getElem? hc).trans haccepts), hstops⟩
  | case3 start hlt c hc hrejects =>
      obtain rfl := Option.some.inj h
      exact ⟨trimsAll_of_le (Nat.le_refl _),
        fun _ => (trimsAt_of_getElem? hc).trans (Bool.eq_false_iff.2 hrejects)⟩
  | case4 start hge =>
      obtain rfl := Option.some.inj h
      exact ⟨trimsAll_of_le (Nat.le_refl _), fun hlt => absurd hlt hge⟩

/-- **The right walk**, likewise. -/
lemma readEnd_stops (h : k.readEnd text start stop = some last) :
    TrimsAll (some k) text last stop
      ∧ (start < last → trimsAt (some k) text (last - 1) = false) := by
  fun_induction readEnd k text start stop with
  | case1 =>
      obtain rfl := Option.some.inj h
      exact ⟨trimsAll_of_le (Nat.le_refl _), fun hlt => absurd hlt (Nat.not_lt_zero _)⟩
  | case2 => simp at h
  | case3 stop hlt c hc haccepts ih =>
      obtain ⟨hpassed, hstops⟩ := ih h
      exact ⟨hpassed.concat ((trimsAt_of_getElem? hc).trans haccepts), hstops⟩
  | case4 stop hlt c hc hrejects =>
      obtain rfl := Option.some.inj h
      exact ⟨trimsAll_of_le (Nat.le_refl _),
        fun _ => (trimsAt_of_getElem? hc).trans (Bool.eq_false_iff.2 hrejects)⟩
  | case5 stop hge =>
      obtain rfl := Option.some.inj h
      exact ⟨trimsAll_of_le (Nat.le_refl _), fun hlt => absurd hlt hge⟩

end CharClass

section Trimming

variable {trimmer : Option CharClass} {text : List Char} {start stop : Nat}

/-- **Trimming leaves what it should.** -/
theorem leaves_trimSpan (trimmer : Option CharClass) (hord : start ≤ stop)
    (hin : stop ≤ text.length) :
    Leaves trimmer text start stop (trimSpan trimmer text start stop) := by
  cases trimmer with
  | none =>
      refine ⟨⟨Nat.le_refl _, hord, Nat.le_refl _⟩, trimsAll_of_le (Nat.le_refl _),
        trimsAll_of_le (Nat.le_refl _), ?_⟩
      rcases Nat.lt_or_eq_of_le hord with hlt | rfl
      · exact Or.inl ⟨hlt, rfl, rfl⟩
      · exact Or.inr ⟨rfl, rfl, trimsAll_of_le (Nat.le_refl _)⟩
  | some k =>
      have hfirst := k.le_trimStart text hord
      have hlast := k.le_trimEnd text hfirst.2
      obtain ⟨hbefore, hleft⟩ := CharClass.readStart_stops (k.readStart_eq hin)
      obtain ⟨hbehind, hright⟩ := CharClass.readEnd_stops (k.readEnd_eq hfirst.2 hin)
      refine ⟨⟨hfirst.1, hlast.1, hlast.2⟩, hbefore, hbehind, ?_⟩
      rcases Nat.lt_or_eq_of_le hlast.1 with hlt | hmeet
      · exact Or.inl ⟨hlt, hleft (hlt.trans_le hlast.2), hright hlt⟩
      · -- the right walk has come back to the left one: a character that had stopped this one would have
        -- stopped it earlier
        have hstop : k.trimStart text start stop = stop := by
          refine Nat.le_antisymm hfirst.2 (Nat.le_of_not_lt fun hlt => ?_)
          exact hbehind.not_lt hmeet.ge (hleft hlt) hlt
        rw [hstop] at hbefore
        exact Or.inr ⟨hstop, hmeet.symm.trans hstop, hbefore⟩

/-- **A character that stays stops the right end**, however far behind it that end has been. -/
lemma lt_trimSpanEnd (hlt : start < stop) (hin : stop ≤ text.length)
    (hstays : trimsAt trimmer text start = false) : start < trimSpanEnd trimmer text start stop := by
  cases trimmer with
  | none => exact hlt
  | some k =>
      obtain ⟨hpassed, -⟩ := CharClass.readEnd_stops (k.readEnd_eq hlt.le hin)
      exact Nat.lt_of_not_le fun hle => hpassed.not_lt hle hstays hlt

end Trimming

/-! ## Walks with any reader

Here a walk is given no text but somebody to ask for the character at a place.  Where he has no answer the
walk has no result, so a walk that has one with a reader who is blind outside the stretch has not asked there.
-/

/-- A reader knows the characters of a stretch.  What he says elsewhere is left open. -/
def Knows (read : Nat → Option Char) (text : List Char) (start stop : Nat) : Prop :=
  ∀ place, start ≤ place → place < stop → read place = text[place]?

namespace CharClass

/-- The walk from the left, told the characters by a reader. -/
def readStartBy (k : CharClass) (read : Nat → Option Char) (start stop : Nat) : Option Nat :=
  if start < stop then
    match read start with
    | none => none
    | some c => if k.accepts c then readStartBy k read (start + 1) stop else some start
  else
    some start
termination_by stop - start

/-- The walk from the right, told the characters by a reader. -/
def readEndBy (k : CharClass) (read : Nat → Option Char) (start : Nat) : Nat → Option Nat
  | 0 => some 0
  | stop + 1 =>
    if start < stop + 1 then
      match read stop with
      | none => none
      | some c => if k.accepts c then readEndBy k read start stop else some (stop + 1)
    else
      some (stop + 1)

variable {k : CharClass} {text : List Char} {read : Nat → Option Char} {start stop : Nat}

/-- A reader who knows the stretch is enough. -/
lemma readStartBy_eq (hread : Knows read text start stop) :
    k.readStartBy read start stop = k.readStart text start stop := by
  fun_induction readStart k text start stop with
  | case1 start hlt hc => rw [readStartBy, if_pos hlt, hread start (Nat.le_refl _) hlt, hc]
  | case2 start hlt c hc haccepts ih =>
      rw [readStartBy, if_pos hlt, hread start (Nat.le_refl _) hlt, hc]
      exact (if_pos haccepts).trans (ih fun place hge => hread place (Nat.le_of_succ_le hge))
  | case3 start hlt c hc hrejects =>
      rw [readStartBy, if_pos hlt, hread start (Nat.le_refl _) hlt, hc]
      exact if_neg hrejects
  | case4 start hge => rw [readStartBy, if_neg hge]

lemma readEndBy_eq (hread : Knows read text start stop) :
    k.readEndBy read start stop = k.readEnd text start stop := by
  fun_induction readEnd k text start stop with
  | case1 => rw [readEndBy]
  | case2 stop hlt hc =>
      rw [readEndBy, if_pos hlt, hread stop (Nat.le_of_lt_succ hlt) (Nat.lt_succ_self _), hc]
  | case3 stop hlt c hc haccepts ih =>
      rw [readEndBy, if_pos hlt, hread stop (Nat.le_of_lt_succ hlt) (Nat.lt_succ_self _), hc]
      exact (if_pos haccepts).trans
        (ih fun place hge hbehind => hread place hge (Nat.lt_succ_of_lt hbehind))
  | case4 stop hlt c hc hrejects =>
      rw [readEndBy, if_pos hlt, hread stop (Nat.le_of_lt_succ hlt) (Nat.lt_succ_self _), hc]
      exact if_neg hrejects
  | case5 stop hge => rw [readEndBy, if_neg hge]

end CharClass

/-- Trimming on both sides, told the characters by a reader. -/
def readSpanBy (trimmer : Option CharClass) (read : Nat → Option Char) (start stop : Nat) :
    Option (Nat × Nat) :=
  match trimmer with
  | none => some (start, stop)
  | some k => (k.readStartBy read start stop).bind fun first =>
      (k.readEndBy read first stop).map fun last => (first, last)

section Trimming

variable {trimmer : Option CharClass} {text : List Char} {read : Nat → Option Char} {start stop : Nat}

/-- **Trimming reads the stretch alone.** -/
lemma readSpanBy_eq (hord : start ≤ stop) (hin : stop ≤ text.length)
    (hread : Knows read text start stop) :
    readSpanBy trimmer read start stop = some (trimSpan trimmer text start stop) := by
  cases trimmer with
  | none => rfl
  | some k =>
      have hfirst := k.le_trimStart text hord
      rw [readSpanBy, CharClass.readStartBy_eq hread, CharClass.readStart_eq hin, Option.bind_some,
        CharClass.readEndBy_eq fun place hge => hread place (hfirst.1.trans hge),
        CharClass.readEnd_eq hfirst.2 hin, Option.map_some]
      rfl

/-! ## The trimmed stretch -/

/-- **Trimming takes off all it can, and looks nowhere else.**  Take any trimmer, any text and a stretch of it.

* What trimming leaves lies inside the stretch.  All that has gone is trimmed characters, and what is left
  has one that stays at either end; or every character was a trimmed one, and nothing is left at the right
  end.  No other two places are like that.
* A reader who knows no character outside the stretch is enough to find them.
* Trimming again takes nothing more.
* If something is left, then something is left as well if the right end is moved to the end of the text and
  trimmed from there. -/
theorem trimSpan_maximal (trimmer : Option CharClass) (text : List Char) {start stop : Nat}
    (hord : start ≤ stop) (hin : stop ≤ text.length) :
    let span := trimSpan trimmer text start stop
    (Leaves trimmer text start stop span
        ∧ ∀ other, Leaves trimmer text start stop other → other = span)
      ∧ (∀ read, Knows read text start stop → readSpanBy trimmer read start stop = some span)
      ∧ trimSpan trimmer text span.1 span.2 = span
      ∧ (span.1 < span.2 → span.1 < trimSpanEnd trimmer text span.1 text.length) := by
  intro span
  have hspan : Leaves trimmer text start stop span := leaves_trimSpan trimmer hord hin
  have hend : span.2 ≤ text.length := hspan.inside.2.2.trans hin
  refine ⟨⟨hspan, fun other hother => hother.unique hspan⟩, fun read => readSpanBy_eq hord hin, ?_,
    fun hlt => ?_⟩
  · exact (leaves_trimSpan trimmer hspan.inside.2.1 hend).unique hspan.self
  · rcases hspan.ends with ⟨-, hstays, -⟩ | ⟨hfirst, hlast, -⟩
    · exact lt_trimSpanEnd (hlt.trans_le hend) (Nat.le_refl _) hstays
    · omega

/-- A letter between blanks.  The reader sees the four characters of the stretch and none of the rest, which
ends with a blank of its own. -/
theorem trimSpan_maximal_between_blanks :
    let text := [';', ' ', 'a', ' ', ' ', ';', 'b', ' ']
    let read := fun place => if 1 ≤ place ∧ place < 5 then text[place]? else none
    1 ≤ 5 ∧ 5 ≤ text.length
      ∧ trimSpan (some .blanks) text 1 5 = (2, 3)
      ∧ Leaves (some .blanks) text 1 5 (2, 3)
      ∧ Knows read text 1 5 ∧ read 0 = none ∧ read 5 = none
      ∧ readSpanBy (some .blanks) read 1 5 = some (2, 3)
      ∧ trimSpan (some .blanks) text 2 3 = (2, 3)
      ∧ trimSpanEnd (some .blanks) text 2 8 = 7
      ∧ 2 < trimSpanEnd (some .blanks) text 2 8 := by
  intro text read
  have hspan : trimSpan (some .blanks) text 1 5 = (2, 3) := by decide
  have hknows : Knows read text 1 5 := fun place hge hlt => if_pos ⟨hge, hlt⟩
  obtain ⟨⟨hleaves, -⟩, hread, hagain, hend⟩ :=
    trimSpan_maximal (some .blanks) text (show 1 ≤ 5 by decide) (show 5 ≤ text.length by decide)
  rw [hspan] at hleaves hread hagain hend
  exact ⟨by decide, by decide, hspan, hleaves, hknows, rfl, rfl, hread read hknows, hagain, by decide,
    hend (by decide)⟩

end Trimming

end TextSplit
