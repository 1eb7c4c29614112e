import TextSplit.CharClass
import TextSplit.Pattern

/-!
# Delimiters

A delimiter is a rule for where a text may be cut.  There are five kinds, and each answers one
question: what is the next boundary at or behind a place?  A boundary is a span of the text; it is
empty where a text is cut between two characters.

* `Delimiter` — the five kinds.  What would cut nothing is excluded by the type: a separator has
  a character, a chunk has a length, a pattern does not match the empty text.
* `Delimiter.locate` — the next boundary.
* `Delimiter.le_of_locate` — a boundary lies at or behind the place asked for, inside the text.
-/

namespace TextSplit

/-- A rule for where a text may be cut. -/
inductive Delimiter where
  /-- At every occurrence of a character. -/
  | char (c : Char)
  /-- At every occurrence of a text. -/
  | literal (separator : List Char) (hasChar : separator ≠ [])
  /-- Wherever a pattern matches. -/
  | pattern (p : Pattern) (cuts : p.matchesEmpty = false)
  /-- Behind every so many characters. -/
  | chunk (length : Nat) (positive : 0 < length)
  /-- At every character of a class. -/
  | charClass (k : CharClass)

namespace Delimiter

instance : BEq Delimiter where
  beq
    | .char c, .char d => c == d
    | .literal s _, .literal t _ => s == t
    | .pattern p _, .pattern q _ => p == q
    | .chunk m _, .chunk n _ => m == n
    | .charClass k, .charClass l => k == l
    | _, _ => false

instance : Inhabited Delimiter := ⟨.char ','⟩

/-- The place of the first tail of `rest` of which `here` holds; `rest` itself is at `pos`. -/
def seek (here : List Char → Bool) : List Char → Nat → Option Nat
  | [], pos => if here [] then some pos else none
  | c :: rest, pos => if here (c :: rest) then some pos else seek here rest (pos + 1)

/-- The next boundary at or behind a place. -/
def locate [PatternSearch] (d : Delimiter) (text : List Char) (start : Nat) : Option (Nat × Nat) :=
  match d with
  | .char c =>
    (seek (fun rest => rest.head? == some c) (text.drop start) start).map fun s => (s, s + 1)
  | .literal separator _ =>
    (seek (separator.isPrefixOf ·) (text.drop start) start).map fun s => (s, s + separator.length)
  | .pattern p _ => PatternSearch.find p text start
  | .chunk length _ =>
    let stop := start + length
    if stop < text.length then some (stop, stop) else none
  | .charClass k =>
    (seek (fun rest => rest.head?.any k.accepts) (text.drop start) start).map fun s => (s, s + 1)

/-! ## Where boundaries lie -/

/-- A tail that is found is a tail, and the test holds of it. -/
theorem seek_spec {here : List Char → Bool} {rest : List Char} {pos s : Nat}
    (h : seek here rest pos = some s) :
    pos ≤ s ∧ s ≤ pos + rest.length ∧ here (rest.drop (s - pos)) = true := by
  induction rest generalizing pos with
  | nil =>
    simp only [seek, Option.ite_none_right_eq_some, Option.some.injEq] at h
    obtain ⟨h1, rfl⟩ := h
    simpa using h1
  | cons c rest ih =>
    simp only [seek] at h
    split at h
    · rename_i hc
      simp only [Option.some.injEq] at h
      subst h
      simpa using hc
    · obtain ⟨h1, h2, h3⟩ := ih h
      refine ⟨by omega, by simp only [List.length_cons]; omega, ?_⟩
      have : s - pos = (s - (pos + 1)) + 1 := by omega
      rw [this, List.drop_succ_cons]
      exact h3

/-- A place found behind the first `start` characters of a text lies behind them, and the test
holds of the text from there. -/
theorem seek_drop_spec {here : List Char → Bool} {text : List Char} {start s : Nat}
    (h : seek here (text.drop start) start = some s) (hnil : here [] = false) :
    start ≤ s ∧ s < text.length ∧ here (text.drop s) = true := by
  obtain ⟨h1, h2, h3⟩ := seek_spec h
  rw [List.drop_drop] at h3
  have hs : start + (s - start) = s := by omega
  rw [hs] at h3
  refine ⟨h1, ?_, h3⟩
  rcases Nat.lt_or_ge s text.length with h' | h'
  · exact h'
  · rw [List.drop_eq_nil_of_le h', hnil] at h3
    simp at h3

/-- **Boundaries lie ahead.**  A boundary starts at or behind the place asked for, does not end
before it starts, and ends inside the text. -/
theorem le_of_locate [PatternSearch] {d : Delimiter} {text : List Char} {start s e : Nat}
    (h : d.locate text start = some (s, e)) : start ≤ s ∧ s ≤ e ∧ e ≤ text.length := by
  cases d with
  | char c =>
    simp only [locate, Option.map_eq_some_iff, Prod.mk.injEq] at h
    obtain ⟨s', h, rfl, rfl⟩ := h
    obtain ⟨h1, h2, _⟩ := seek_drop_spec h (by simp)
    omega
  | literal separator hasChar =>
    simp only [locate, Option.map_eq_some_iff, Prod.mk.injEq] at h
    obtain ⟨s', h, rfl, rfl⟩ := h
    obtain ⟨h1, h2, h3⟩ := seek_drop_spec h (by cases separator <;> simp_all)
    have := (List.isPrefixOf_iff_prefix.1 h3).length_le
    rw [List.length_drop] at this
    omega
  | pattern p cuts => exact PatternSearch.le_of_find h
  | chunk length positive =>
    simp only [locate, Option.ite_none_right_eq_some, Option.some.injEq, Prod.mk.injEq] at h
    omega
  | charClass k =>
    simp only [locate, Option.map_eq_some_iff, Prod.mk.injEq] at h
    obtain ⟨s', h, rfl, rfl⟩ := h
    obtain ⟨h1, h2, _⟩ := seek_drop_spec h (by simp)
    omega

/-! ## Spelling -/

/-- The spelling of a delimiter inside a message. -/
def spelling : Delimiter → String
  | .char c => "CharDelimiter(char=" ++ String.ofList (Quoted.chars [c]) ++ ")"
  | .literal separator _ =>
    "StringDelimiter(separator=" ++ String.ofList (Quoted.chars separator) ++ ")"
  | .pattern p _ => "PatternDelimiter(pattern=" ++ p.spelling ++ ")"
  | .chunk length _ => "FixedLengthDelimiter(length=" ++ toString length ++ ")"
  | .charClass k => "CharClassDelimiter(predicate=" ++ k.spelling ++ ")"

end Delimiter

end TextSplit
