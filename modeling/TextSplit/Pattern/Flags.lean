/-!
# Flags of a pattern

A flag changes how a whole pattern, or one group of it, is read and matched.  The flags of a pattern are
the bits of one word, and callers give them as an integer.  Nine of the bits have a name; the others are
kept with a pattern and do nothing.

* `Flags.ignoreCase`, … — the flags that have a name.
* `Flags.ofNumber`, `Flags.number` — the word of an integer and the integer of a word.
* `Flags.written`, `Flags.unnamed` — the flags that are written with a pattern, and those without a name.
  A text pattern is Unicode-aware unless it asks for ASCII, so the Unicode flag says nothing and belongs to
  neither.
-/

namespace TextSplit.Pattern

/-- A set of flags. -/
structure Flags where
  bits : BitVec 32
  deriving DecidableEq, Repr, Inhabited

namespace Flags

/-- The word of an integer; negative integers have all high bits. -/
def ofNumber (n : Int) : Flags := ⟨.ofInt 32 n⟩

/-- The integer of a word. -/
def number (f : Flags) : Int := f.bits.toInt

/-- No flag. -/
def none : Flags := ⟨0⟩

/-- The pattern is a template; templates may not repeat anything. -/
def template : Flags := ⟨1⟩

/-- Letters match in either case. -/
def ignoreCase : Flags := ⟨2⟩

/-- Classes follow the locale; only byte patterns may ask for it. -/
def locale : Flags := ⟨4⟩

/-- The line anchors match at every line. -/
def multiline : Flags := ⟨8⟩

/-- The dot matches a newline too. -/
def dotAll : Flags := ⟨16⟩

/-- Classes follow the Unicode standard. -/
def unicode : Flags := ⟨32⟩

/-- Blanks and comments in the pattern are skipped. -/
def verbose : Flags := ⟨64⟩

/-- What has been read is shown; it has no effect on a match. -/
def debug : Flags := ⟨128⟩

/-- Classes and case know ASCII only. -/
def ascii : Flags := ⟨256⟩

/-- Both sets together. -/
def union (a b : Flags) : Flags := ⟨a.bits ||| b.bits⟩

/-- The flags of both sets. -/
def inter (a b : Flags) : Flags := ⟨a.bits &&& b.bits⟩

/-- Whether the sets share a flag. -/
def meets (a b : Flags) : Bool := a.bits &&& b.bits != 0

/-- The first set without the flags of the second. -/
def minus (a b : Flags) : Flags := ⟨a.bits &&& ~~~b.bits⟩

/-- The flags that choose what the character classes mean; at most one may be on. -/
def kinds : Flags := (ascii.union locale).union unicode

/-- The flags inside a group that turns some on and some off.  Choosing a meaning for the classes
replaces the meaning chosen outside. -/
def within (outer on off : Flags) : Flags :=
  let base := if on.meets kinds then outer.minus kinds else outer
  (base.union on).minus off

/-- Whether a pattern of bytes, or one of characters, may have the flags: its classes have one meaning
at most, which is not that of the other sort. -/
def suit (f : Flags) (ofBytes : Bool) : Bool :=
  if ofBytes then !f.meets unicode && !(f.meets locale && f.meets ascii)
  else !f.meets locale && !(f.meets ascii && f.meets unicode)

/-- The flags that a pattern is spelled with, with their names, in the order of spelling. -/
def named : List (Flags × String) :=
  [(template, "TEMPLATE"), (ignoreCase, "IGNORECASE"), (locale, "LOCALE"), (multiline, "MULTILINE"),
   (dotAll, "DOTALL"), (verbose, "VERBOSE"), (debug, "DEBUG"), (ascii, "ASCII")]

/-- All flags that have a name, except the one that says nothing. -/
def everyNamed : Flags := named.foldl (fun all (flag, _) => all.union flag) none

/-- The flags that are written with a pattern: those that have a name. -/
def written (f : Flags) : Flags := f.inter everyNamed

/-- The flags that have no name. -/
def unnamed (f : Flags) : Flags := (f.minus everyNamed).minus unicode

/-- The spelling of a set of flags by itself: the named flags, here in the order of their introduction, and
the others as one number. -/
def spelling (f : Flags) : String :=
  let names := members.filterMap fun (flag, name) =>
    if f.meets flag then some ("re." ++ name) else Option.none
  let rest := f.unnamed.bits.toNat
  if names.isEmpty then
    if rest == 0 then "re.NOFLAG" else "re.RegexFlag(" ++ toString rest ++ ")"
  else
    String.intercalate "|" <|
      if rest == 0 then names else names ++ ["0x" ++ String.ofList (Nat.toDigits 16 rest)]
where
  members : List (Flags × String) :=
    [(ascii, "ASCII"), (ignoreCase, "IGNORECASE"), (locale, "LOCALE"), (unicode, "UNICODE"),
     (multiline, "MULTILINE"), (dotAll, "DOTALL"), (verbose, "VERBOSE"), (template, "TEMPLATE"),
     (debug, "DEBUG")]

/-- A word is the word of its integer. -/
theorem ofNumber_number (f : Flags) : ofNumber f.number = f := by
  simp [ofNumber, number]

/-- Flags that are written have a name already. -/
theorem written_written (f : Flags) : f.written.written = f.written := by
  simp [written, inter, BitVec.and_assoc]

/-- The integer of flags that are written is not negative: it is the number of the word. -/
theorem number_written (f : Flags) : f.written.number = f.written.bits.toNat := by
  have hle : f.written.bits.toNat ≤ everyNamed.bits.toNat := by
    simp only [written, inter, BitVec.toNat_and]
    exact Nat.and_le_right
  have hsmall : everyNamed.bits.toNat < 2 ^ 31 := by decide
  exact BitVec.toInt_eq_toNat_of_lt (by omega)

/-- Flags without a name are not written. -/
theorem written_union_unnamed (f g : Flags) : (f.written.union g.unnamed).written = f.written := by
  simp only [written, union, inter, unnamed, minus, Flags.mk.injEq]
  ext i hi
  simp only [BitVec.getElem_and, BitVec.getElem_or, BitVec.getElem_not]
  cases everyNamed.bits[i] <;> simp

/-- Flags that are written leave nothing without a name. -/
theorem union_unnamed_written (f : Flags) : f.written.union f.written.unnamed = f.written := by
  simp only [written, union, inter, unnamed, minus, Flags.mk.injEq]
  ext i hi
  simp only [BitVec.getElem_and, BitVec.getElem_or, BitVec.getElem_not]
  cases everyNamed.bits[i] <;> simp

end Flags

end TextSplit.Pattern
