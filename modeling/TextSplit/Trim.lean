import TextSplit.CharClass
import TextSplit.Cut

/-!
# Trimming a stretch of text

Trimming moves the two ends of a stretch towards each other, past every character of a class.  If
all characters go, the stretch becomes empty at its right end.

* `CharClass.trimStart`, `CharClass.trimEnd` — one end.
* `trimSpan` — both ends, under an optional trimmer.
-/

namespace TextSplit

namespace CharClass

/-- The first place from `start` on whose character stays. -/
def trimStart (k : CharClass) (text : List Char) (start stop : Nat) : Nat :=
  start + ((stretch text start stop).takeWhile k.accepts).length

/-- The place behind the last character before `stop` that stays. -/
def trimEnd (k : CharClass) (text : List Char) (start stop : Nat) : Nat :=
  stop - ((stretch text start stop).reverse.takeWhile k.accepts).length

end CharClass

/-- The end of a stretch after trimming on the right. -/
def trimSpanEnd (trimmer : Option CharClass) (text : List Char) (start stop : Nat) : Nat :=
  match trimmer with
  | none => stop
  | some k => k.trimEnd text start stop

/-- The ends of a stretch after trimming on both sides, the left side first. -/
def trimSpan (trimmer : Option CharClass) (text : List Char) (start stop : Nat) : Nat × Nat :=
  match trimmer with
  | none => (start, stop)
  | some k =>
    let first := k.trimStart text start stop
    (first, k.trimEnd text first stop)

end TextSplit
