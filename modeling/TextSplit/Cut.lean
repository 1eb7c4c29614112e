import TextSplit.Delimiter

/-!
# Cutting a text

A cut is one piece of a text together with the place where the next piece starts.  Pieces follow
one another from left to right, and between two of them lies a boundary.

A boundary that is empty and lies where the piece starts would cut nothing off, so it is passed
over: the search goes on one character further while the piece still starts where it did.  At the
end of the text nothing is left to pass over, and there the last piece, which is empty, is lost.

* `Cut` — a piece and what follows it.
* `Delimiter.cut` — the piece that starts at a place.
* `Delimiter.cutsFrom` — all pieces from a place on.
* `Delimiter.cut_next` — the next piece starts further right, inside the text.
-/

namespace TextSplit

/-- The stretch of a text between two places. -/
def stretch (text : List Char) (start stop : Nat) : List Char :=
  (text.drop start).take (stop - start)

/-- A piece of a text, and the place of the next one if there is a boundary behind it. -/
structure Cut where
  start : Nat
  stop : Nat
  next : Option Nat
  deriving DecidableEq, Repr, Inhabited

namespace Delimiter

/-- The piece that starts at a place. -/
def cut [PatternSearch] (d : Delimiter) (text : List Char) (start : Nat) : Option Cut :=
  match d.locate text start with
  | none => some ⟨start, text.length, none⟩
  | some (s, e) =>
    if e = start then
      if start < text.length then
        match d.locate text (start + 1) with
        | none => some ⟨start, text.length, none⟩
        | some (s', e') => some ⟨start, s', some e'⟩
      else
        none
    else
      some ⟨start, s, some e⟩

/-- **Progress.**  The next piece starts behind the start of this one, inside the text. -/
theorem cut_next [PatternSearch] {d : Delimiter} {text : List Char} {start n : Nat} {c : Cut}
    (h : d.cut text start = some c) (hn : c.next = some n) : start < n ∧ n ≤ text.length := by
  unfold cut at h
  split at h
  · simp only [Option.some.injEq] at h
    subst h
    simp at hn
  · rename_i s e hl
    have := le_of_locate hl
    split at h
    · split at h
      · split at h
        · simp only [Option.some.injEq] at h
          subst h
          simp at hn
        · rename_i s' e' hl'
          have := le_of_locate hl'
          simp only [Option.some.injEq] at h
          subst h
          simp only [Option.some.injEq] at hn
          omega
      · simp at h
    · simp only [Option.some.injEq] at h
      subst h
      simp only [Option.some.injEq] at hn
      omega

/-- All pieces from a place on. -/
def cutsFrom [PatternSearch] (d : Delimiter) (text : List Char) (start : Nat) : List Cut :=
  match _h : d.cut text start with
  | none => []
  | some c =>
    match _hn : c.next with
    | none => [c]
    | some n => c :: cutsFrom d text n
termination_by text.length - start
decreasing_by
  have := cut_next _h _hn
  omega

end Delimiter

end TextSplit
