import TextSplit.Pattern.Engine
import TextSplit.Pattern.Reader

/-!
# Patterns

A pattern is a text that has been read under some flags: the text, the flags it settled on, and the tree
that it reads as.

* `Pattern` — a pattern that has been read.
* `Pattern.compile`, `Pattern.ofNumber`, `Pattern.checkBytes` — reading a pattern.
* `PatternReader` — what the program asks of whatever reads its patterns.
* `Pattern.search` — the leftmost match at or behind a place.
* `PatternSearch` — what cutting a text asks of a search, whatever finds the matches.
* `Pattern.matchesEmpty` — whether the empty text matches; such a pattern cuts nothing off.
* `Pattern.spelling` — the spelling of a pattern inside a message.
-/

namespace TextSplit

/-- A text that has been read as a pattern. -/
structure Pattern where
  source : List Char
  /-- The flags of the pattern, all but the one that says nothing. -/
  flags : Pattern.Flags
  tree : Pattern.Tree
  deriving DecidableEq, Repr, Inhabited

namespace Pattern

/-! ## Reading -/

/-- Reads a pattern.  The named flags it settles on are given from the start the second time, so that
text and settled flags read as the same tree again. -/
def compile [CharNames] [Machine] (source : List Char) (given : Flags) : Except Fault Pattern := do
  let (flags, _) ← read false source given
  let (again, tree) ← read false source flags
  if again = flags then return ⟨source, flags.union given.unnamed, tree⟩ else throw .badFlags

/-- Reads a pattern under the flags of an integer, which is not allowed to be longer than a word.  The
text is looked at first. -/
def ofNumber [CharNames] [Machine] (source : List Char) (n : Int) : Except Fault Pattern := do
  let p ← compile source (.ofNumber n)
  if (Flags.ofNumber n).number = n then return p else throw .tooManyFlags

/-- The characters whose codes are the given bytes. -/
def charsOf (bytes : List UInt8) : List Char := bytes.map fun b => Char.ofNat b.toNat

/-- Whether bytes read as a pattern under the flags of an integer.  Such a pattern matches no text, so
only what is wrong with it matters. -/
def checkBytes [CharNames] [Machine] (bytes : List UInt8) (n : Int) : Except Fault Unit := do
  let _ ← read true (charsOf bytes) (.ofNumber n)
  unless (Flags.ofNumber n).number = n do throw .tooManyFlags

/-- The flags that come with a tree have a name. -/
theorem written_of_read [CharNames] [Machine] {ofBytes : Bool} {source : List Char} {given flags : Flags}
    {tree : Tree} (h : read ofBytes source given = .ok (flags, tree)) : flags.written = flags := by
  simp only [read] at h
  split at h
  · simp at h
  · simp only [Except.ok.injEq, Prod.mk.injEq] at h
    rw [← h.1, Flags.written_written]

/-- What a pattern that has been read is made of. -/
theorem compile_eq_ok [CharNames] [Machine] {source : List Char} {given : Flags} {p : Pattern}
    (h : compile source given = .ok p) :
    ∃ flags tree, read false source flags = .ok (flags, tree)
      ∧ p = ⟨source, flags.union given.unnamed, tree⟩ := by
  rcases hfirst : read false source given with fault | ⟨flags, first⟩
  · simp [compile, hfirst, bind, Except.bind] at h
  rcases hsecond : read false source flags with fault | ⟨again, tree⟩
  · simp [compile, hfirst, hsecond, bind, Except.bind] at h
  by_cases hsame : again = flags
  · subst hsame
    refine ⟨again, tree, hsecond, ?_⟩
    simpa [compile, hfirst, hsecond, bind, Except.bind, pure, Except.pure] using h.symm
  · simp [compile, hfirst, hsecond, hsame, bind, Except.bind, throw, throwThe,
      MonadExceptOf.throw] at h

/-- What a pattern is read from under an integer. -/
theorem ofNumber_eq_ok [CharNames] [Machine] {source : List Char} {n : Int} {p : Pattern} :
    ofNumber source n = .ok p ↔
      compile source (.ofNumber n) = .ok p ∧ (Flags.ofNumber n).number = n := by
  rcases h : compile source (.ofNumber n) with fault | q
  · simp [ofNumber, h, bind, Except.bind]
  · by_cases hn : (Flags.ofNumber n).number = n
    · simp [ofNumber, h, hn, bind, Except.bind, pure, Except.pure]
    · simp [ofNumber, h, hn, bind, Except.bind, throw, throwThe, MonadExceptOf.throw]

/-- **Reading again.**  The text of a pattern reads as the pattern again under the flags that are written
with it, except that flags without a name are lost. -/
theorem ofNumber_written [CharNames] [Machine] {source : List Char} {n : Int} {p : Pattern}
    (h : ofNumber source n = .ok p) :
    ofNumber p.source p.flags.written.number = .ok { p with flags := p.flags.written } := by
  obtain ⟨flags, tree, hread, rfl⟩ := compile_eq_ok (ofNumber_eq_ok.1 h).1
  have hnamed := written_of_read hread
  have hflags : (flags.union (Flags.ofNumber n).unnamed).written = flags := by
    rw [← hnamed, Flags.written_union_unnamed]
  rw [ofNumber_eq_ok, Flags.ofNumber_number]
  refine ⟨?_, rfl⟩
  simp only [hflags]
  have hnone : flags.union flags.unnamed = flags := by
    rw [← hnamed, Flags.union_unnamed_written]
  simp [compile, hread, hnone, bind, Except.bind, pure, Except.pure]

end Pattern

/-- Whatever reads the patterns of the program.  The program relies on one thing only: the text of a
pattern reads as the pattern again under the flags that are written with it, except that flags without a
name are lost.  A reader may also remember patterns it has read under an integer; it then gives them for
other numbers of the same size too.  What it remembers is meant at the time when it is asked. -/
class PatternReader where
  compile : List Char → Int → Except Pattern.Fault Pattern
  checkBytes : List UInt8 → Int → Except Pattern.Fault Unit
  remembers : List Char → Int → Bool
  compile_written {source : List Char} {n : Int} {p : Pattern} :
    compile source n = .ok p →
      compile p.source p.flags.written.number = .ok { p with flags := p.flags.written }

/-- Patterns are read as above, unless another reader is named; all that can be read are remembered but
those that are shown. -/
instance PatternReader.syntactic [CharNames] [Machine] : PatternReader where
  compile := Pattern.ofNumber
  checkBytes := Pattern.checkBytes
  remembers source n :=
    (Pattern.ofNumber source n).isOk && !(Pattern.Flags.ofNumber n).meets Pattern.Flags.debug
  compile_written := Pattern.ofNumber_written

namespace Pattern

/-! ## Searching -/

/-- The leftmost match that starts at or behind a place. -/
def search (p : Pattern) (text : List Char) (start : Nat) : Option (Nat × Nat) :=
  searchFrom p.tree text.toArray start

/-- A match lies at or behind the place asked for, and inside the text. -/
theorem le_of_search {p : Pattern} {text : List Char} {start s e : Nat}
    (h : p.search text start = some (s, e)) : start ≤ s ∧ s ≤ e ∧ e ≤ text.length := by
  have := le_of_searchFrom h
  simpa using this

/-- Whether the empty text as a whole matches. -/
def matchesEmpty (p : Pattern) : Bool :=
  (matchAt p.tree #[] 0).isSome

/-- The spelling of a pattern.  A long source is cut after two hundred characters of its own
spelling; the flags follow by name, and those without a name as one hexadecimal number. -/
def spelling (p : Pattern) : String :=
  let source := String.ofList ((Quoted.chars p.source).take 200)
  let names := Flags.named.filterMap fun (flag, name) =>
    if p.flags.meets flag then some ("re." ++ name) else none
  let rest := p.flags.unnamed.bits.toNat
  let flags := if rest == 0 then names
    else names ++ ["0x" ++ String.ofList (Nat.toDigits 16 rest)]
  if flags.isEmpty then "re.compile(" ++ source ++ ")"
  else "re.compile(" ++ source ++ ", " ++ String.intercalate "|" flags ++ ")"

end Pattern

/-- How the matches of patterns are found.  Cutting a text relies on one thing only: a match that
is found lies at or behind the place asked for, inside the text. -/
class PatternSearch where
  find : Pattern → List Char → Nat → Option (Nat × Nat)
  le_of_find {p : Pattern} {text : List Char} {start s e : Nat} :
    find p text start = some (s, e) → start ≤ s ∧ s ≤ e ∧ e ≤ text.length

namespace PatternSearch

/-- Matches are found by backtracking, unless another search is named. -/
instance backtracking : PatternSearch := ⟨Pattern.search, Pattern.le_of_search⟩

end PatternSearch

end TextSplit
