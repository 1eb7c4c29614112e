import TextSplit.Proofs.Stretch
import TextSplit.Proofs.Boundary
import Mathlib.Tactic.SplitIfs

/-!
# Reading a text place by place

Trimming and looking for a character of a class are said on whole stretches: the longest run of accepted
characters, the first tail that starts with one.  A machine goes from place to place and reads one
character at each, and a place can lie outside the text.  Here the two are the same.  The readers below
have no result as soon as one place they read has no character; inside the text they always have one,
and it is what the stretches say.

* `stretch_eq_cons`, `stretch_eq_append` — a stretch and the character at either end of it.
* `CharClass.readStart`, `readEnd`, `readFirst` — the three walks, and `readStart_eq`, `readEnd_eq`,
  `readFirst_eq`, what they come to.
* `readSpan`, `readSpanEnd` — trimming by walking; `readSpan_eq`, `readSpanEnd_eq`.
* `Delimiter.ask` — the next boundary, asked for at a place inside the text only; `ask_eq`.
-/

namespace TextSplit

/-! ## Stretches and the characters at their ends -/

lemma stretch_eq_cons {text : List Char} {start stop : Nat} {c : Char} (h : start < stop)
    (hc : text[start]? = some c) : stretch text start stop = c :: stretch text (start + 1) stop := by
  obtain ⟨hlt, rfl⟩ := List.getElem?_eq_some_iff.1 hc
  rw [stretch, stretch, List.drop_eq_getElem_cons hlt, show stop - start = stop - (start + 1) + 1 by omega,
    List.take_succ_cons]

lemma stretch_eq_append {text : List Char} {start stop : Nat} {c : Char} (h : start ≤ stop)
    (hc : text[stop]? = some c) : stretch text start (stop + 1) = stretch text start stop ++ [c] := by
  rw [stretch, stretch, show stop + 1 - start = stop - start + 1 by omega, List.take_add_one,
    List.getElem?_drop, Nat.add_sub_cancel' h, hc, Option.toList_some]

namespace CharClass

variable {k : CharClass} {text : List Char}

/-! ## Walks -/

/-- The first place from `start` on, before `stop`, whose character stays; `stop` if none does. -/
def readStart (k : CharClass) (text : List Char) (start stop : Nat) : Option Nat :=
  if start < stop then
    match text[start]? with
    | none => none
    | some c => if k.accepts c then readStart k text (start + 1) stop else some start
  else
    some start
termination_by stop - start

/-- The place behind the last character before `stop`, from `start` on, that stays; `start` if none
does. -/
def readEnd (k : CharClass) (text : List Char) (start : Nat) : Nat → Option Nat
  | 0 => some 0
  | stop + 1 =>
    if start < stop + 1 then
      match text[stop]? with
      | none => none
      | some c => if k.accepts c then readEnd k text start stop else some (stop + 1)
    else
      some (stop + 1)

/-- The first place from `place` on that holds a character of the class, if there is one. -/
def readFirst (k : CharClass) (text : List Char) (place : Nat) : Option (Option Nat) :=
  if place < text.length then
    match text[place]? with
    | none => none
    | some c => if k.accepts c then some (some place) else readFirst k text (place + 1)
  else
    some none
termination_by text.length - place

/-- Walking over what is trimmed ends where the longest run does. -/
lemma readStart_eq {start stop : Nat} (hstop : stop ≤ text.length) :
    k.readStart text start stop = some (k.trimStart text start stop) := by
  fun_induction readStart k text start stop with
  | case1 start hlt hc =>
      rw [List.getElem?_eq_none_iff] at hc
      omega
  | case2 start hlt c hc haccepts ih =>
      rw [ih, trimStart, trimStart, stretch_eq_cons hlt hc, List.takeWhile_cons_of_pos haccepts,
        List.length_cons, Nat.add_assoc, Nat.add_comm 1]
  | case3 start hlt c hc haccepts =>
      rw [trimStart, stretch_eq_cons hlt hc, List.takeWhile_cons_of_neg haccepts, List.length_nil,
        Nat.add_zero]
  | case4 start hge =>
      have hrun := k.length_run_le text start stop
      rw [trimStart, show (List.takeWhile k.accepts (stretch text start stop)).length = 0 by omega,
        Nat.add_zero]

lemma readEnd_eq {start stop : Nat} (hord : start ≤ stop) (hstop : stop ≤ text.length) :
    k.readEnd text start stop = some (k.trimEnd text start stop) := by
  fun_induction readEnd k text start stop with
  | case1 => rw [trimEnd, Nat.zero_sub]
  | case2 stop hlt hc =>
      rw [List.getElem?_eq_none_iff] at hc
      omega
  | case3 stop hlt c hc haccepts ih =>
      have hle : start ≤ stop := Nat.le_of_lt_succ hlt
      rw [ih hle (by omega), trimEnd, trimEnd, stretch_eq_append hle hc, List.reverse_append,
        List.reverse_singleton, List.singleton_append, List.takeWhile_cons_of_pos haccepts,
        List.length_cons, Nat.succ_eq_add_one, Nat.add_sub_add_right]
  | case4 stop hlt c hc haccepts =>
      rw [trimEnd, stretch_eq_append (Nat.le_of_lt_succ hlt) hc, List.reverse_append,
        List.reverse_singleton, List.singleton_append, List.takeWhile_cons_of_neg haccepts,
        List.length_nil, Nat.sub_zero]
  | case5 stop hge =>
      have hrun := k.length_run_reverse_le text start (stop + 1)
      rw [trimEnd, show (List.takeWhile k.accepts (stretch text start (stop + 1)).reverse).length = 0
        by omega, Nat.sub_zero]

/-- Walking right to the first character of the class finds the first tail that starts with one. -/
lemma readFirst_eq (k : CharClass) (text : List Char) (place : Nat) :
    k.readFirst text place
      = some (Delimiter.seek (fun rest => rest.head?.any k.accepts) (text.drop place) place) := by
  fun_induction readFirst k text place with
  | case1 place hlt hc =>
      rw [List.getElem?_eq_none_iff] at hc
      omega
  | case2 place hlt c hc haccepts =>
      obtain ⟨_, rfl⟩ := List.getElem?_eq_some_iff.1 hc
      rw [List.drop_eq_getElem_cons hlt, Delimiter.seek, List.head?_cons, Option.any_some, if_pos haccepts]
  | case3 place hlt c hc haccepts ih =>
      obtain ⟨_, rfl⟩ := List.getElem?_eq_some_iff.1 hc
      rw [ih, List.drop_eq_getElem_cons hlt, Delimiter.seek, List.head?_cons, Option.any_some,
        if_neg haccepts]
  | case4 place hge =>
      rw [List.drop_eq_nil_of_le (Nat.le_of_not_lt hge), Delimiter.seek]
      rfl

end CharClass

/-! ## Trimming and asking -/

/-- The end of a stretch after trimming on the right, by walking. -/
def readSpanEnd (trimmer : Option CharClass) (text : List Char) (start stop : Nat) : Option Nat :=
  match trimmer with
  | none => some stop
  | some k => k.readEnd text start stop

/-- The ends of a stretch after trimming on both sides, by walking. -/
def readSpan (trimmer : Option CharClass) (text : List Char) (start stop : Nat) :
    Option (Nat × Nat) :=
  match trimmer with
  | none => some (start, stop)
  | some k => (k.readStart text start stop).bind fun first =>
      (k.readEnd text first stop).map fun last => (first, last)

section Trimming

variable {trimmer : Option CharClass} {text : List Char} {start stop : Nat}

lemma readSpanEnd_eq (hord : start ≤ stop) (hstop : stop ≤ text.length) :
    readSpanEnd trimmer text start stop = some (trimSpanEnd trimmer text start stop) := by
  cases trimmer with
  | none => rfl
  | some k => exact CharClass.readEnd_eq hord hstop

lemma readSpan_eq (hord : start ≤ stop) (hstop : stop ≤ text.length) :
    readSpan trimmer text start stop = some (trimSpan trimmer text start stop) := by
  cases trimmer with
  | none => rfl
  | some k =>
      rw [readSpan, CharClass.readStart_eq hstop, Option.bind_some,
        CharClass.readEnd_eq (k.le_trimStart text hord).2 hstop, Option.map_some]
      rfl

end Trimming

namespace Delimiter

variable [PatternSearch]

/-- The next boundary at or behind a place of the text; behind its end nobody may ask.  A class is
looked for by walking. -/
def ask (d : Delimiter) (text : List Char) (place : Nat) : Option (Option (Nat × Nat)) :=
  if place ≤ text.length then
    match d with
    | .charClass k => (k.readFirst text place).map fun found => found.map fun s => (s, s + 1)
    | d => some (d.locate text place)
  else
    none

lemma ask_eq {d : Delimiter} {text : List Char} {place : Nat} (h : place ≤ text.length) :
    d.ask text place = some (d.locate text place) := by
  unfold ask
  rw [if_pos h]
  cases d with
  | charClass k =>
      simp only [CharClass.readFirst_eq, Option.map_some, locate]
  | _ => rfl

end Delimiter

end TextSplit
