import TextSplit.Proofs.Leftmost

/-!
# Where delimiters occur

A character, a separator and a class are found by three searches, each with a test of its own for the rest
of the text.  What they look for can be said without any search: some texts are delimiters, and a delimiter
occurs where the text between two places is one of them.  The three searches meet this one description.
That is all that follows need: what is first from some place on is first from every place before it that is
not too early, and what ends inside a text is not moved by what stands behind it.

* `Delimits`, `OccursAt` — the texts that are delimiters, and where they occur.
* `HasWords` — the three kinds of delimiters that are given by such texts.
* `Probes` — a test of tails that finds exactly the occurrences; `HasWords.exists_probes` — each kind has one.
* **`locate_eq_some_iff_occursAt`**, **`locate_eq_none_iff_occursAt`** — the boundary is the first occurrence.
* **`locate_first_occurrence`** — the same with what follows: other starts, and longer texts.
-/

namespace TextSplit.Delimiter

variable {d : Delimiter} {text : List Char} {start s e : Nat}

/-! ## What is looked for -/

/-- The texts that are delimiters. -/
def Delimits : Delimiter → List Char → Prop
  | .char c, word => word = [c]
  | .literal separator _, word => word = separator
  | .charClass k, word => ∃ c, word = [c] ∧ k.accepts c = true
  | _, _ => False

/-- A delimiter occurs between two places of a text. -/
def OccursAt (d : Delimiter) (text : List Char) (s e : Nat) : Prop :=
  e ≤ text.length ∧ d.Delimits (stretch text s e)

/-- The delimiters that are given by the texts they cut at. -/
inductive HasWords : Delimiter → Prop
  | char (c : Char) : HasWords (.char c)
  | literal (separator : List Char) (hasChar : separator ≠ []) : HasWords (.literal separator hasChar)
  | charClass (k : CharClass) : HasWords (.charClass k)

lemma HasWords.not_isPattern (hd : d.HasWords) : ¬ d.IsPattern := by
  cases hd <;> exact not_false

/-- A text between two places is found at the first of them, and then it tells the second. -/
lemma stretch_eq_iff {word : List Char} (hword : word ≠ []) :
    (e ≤ text.length ∧ stretch text s e = word) ↔ word <+: text.drop s ∧ e = s + word.length := by
  have hpos := List.length_pos_of_ne_nil hword
  constructor
  · rintro ⟨he, rfl⟩
    rw [length_stretch] at hpos ⊢
    refine ⟨?_, by omega⟩
    exact List.take_prefix _ _
  · rintro ⟨hstarts, rfl⟩
    have hlen := hstarts.length_le
    rw [List.length_drop] at hlen
    refine ⟨by omega, ?_⟩
    rw [stretch, Nat.add_sub_cancel_left]
    exact (List.prefix_iff_eq_take.1 hstarts).symm

/-! ## Three searches -/

section Search

variable [PatternSearch]

/-- A delimiter is searched for by a test of the rest of the text, and this test finds its occurrences, which
all have one width. -/
structure Probes (d : Delimiter) (here : List Char → Bool) (width : Nat) : Prop where
  positive : 0 < width
  locate_eq : ∀ text start,
    d.locate text start = (seek here (text.drop start) start).map fun s => (s, s + width)
  occursAt_iff : ∀ text s e, d.OccursAt text s e ↔ here (text.drop s) = true ∧ e = s + width

/-- A delimiter with one text is found by its text. -/
lemma probes_of_separator? (sep : List Char) (hd : d.separator? = some sep)
    (hwords : ∀ word, d.Delimits word ↔ word = sep) : d.Probes (sep.isPrefixOf ·) sep.length where
  positive := List.length_pos_of_ne_nil (separator?_ne_nil hd)
  locate_eq text start := locate_of_separator? hd
  occursAt_iff text s e := by
    rw [OccursAt, hwords, stretch_eq_iff (separator?_ne_nil hd), List.isPrefixOf_iff_prefix]

/-- A class is found by the character that comes next. -/
lemma probes_charClass (k : CharClass) :
    (Delimiter.charClass k).Probes (fun rest => rest.head?.any k.accepts) 1 where
  positive := Nat.one_pos
  locate_eq text start := rfl
  occursAt_iff text s e := by
    have hone : ∀ c : Char, [c] <+: text.drop s ↔ (text.drop s).head? = some c := by
      intro c
      cases text.drop s with
      | nil => simp
      | cons b rest => simp [List.cons_prefix_cons, eq_comm]
    have hword : ∀ c : Char, (e ≤ text.length ∧ stretch text s e = [c])
        ↔ (text.drop s).head? = some c ∧ e = s + 1 := by
      intro c
      rw [stretch_eq_iff (List.cons_ne_nil c []), hone]
      rfl
    rw [Option.any_eq_true]
    constructor
    · rintro ⟨he, c, hstretch, hc⟩
      obtain ⟨hhead, hend⟩ := (hword c).1 ⟨he, hstretch⟩
      exact ⟨⟨c, hhead, hc⟩, hend⟩
    · rintro ⟨⟨c, hhead, hc⟩, hend⟩
      obtain ⟨he, hstretch⟩ := (hword c).2 ⟨hhead, hend⟩
      exact ⟨he, c, hstretch, hc⟩

/-- Each of the three kinds has its test. -/
lemma HasWords.exists_probes (hd : d.HasWords) : ∃ here width, d.Probes here width := by
  cases hd with
  | char c => exact ⟨_, _, probes_of_separator? [c] rfl fun _ => Iff.rfl⟩
  | literal separator hasChar => exact ⟨_, _, probes_of_separator? separator rfl fun _ => Iff.rfl⟩
  | charClass k => exact ⟨_, _, probes_charClass k⟩

namespace Probes

variable {here : List Char → Bool} {width : Nat}

/-- Nothing occurs in the empty text. -/
lemma here_nil (h : d.Probes here width) : here [] = false := by
  refine Bool.eq_false_iff.2 fun hnil => ?_
  have hwidth := ((h.occursAt_iff [] 0 (0 + width)).2 ⟨hnil, rfl⟩).1
  have hpos := h.positive
  rw [List.length_nil] at hwidth
  omega

/-- The test fails exactly where no delimiter occurs. -/
lemma here_eq_false_iff (h : d.Probes here width) {q : Nat} :
    here (text.drop q) = false ↔ ∀ stop, ¬ d.OccursAt text q stop := by
  rw [← Bool.not_eq_true]
  constructor
  · exact fun hnot stop hat => hnot ((h.occursAt_iff text q stop).1 hat).1
  · exact fun hnot hhere => hnot _ ((h.occursAt_iff text q _).2 ⟨hhere, rfl⟩)

end Probes

/-! ## The first occurrence -/

/-- **The boundary is the first occurrence** at or behind the place asked for. -/
theorem locate_eq_some_iff_occursAt (hd : d.HasWords) :
    d.locate text start = some (s, e)
      ↔ start ≤ s ∧ d.OccursAt text s e
        ∧ ∀ q, start ≤ q → q < s → ∀ stop, ¬ d.OccursAt text q stop := by
  obtain ⟨here, width, h⟩ := hd.exists_probes
  simp only [h.locate_eq, Option.map_eq_some_iff, Prod.mk.injEq, seek_drop_eq_some_iff h.here_nil,
    h.here_eq_false_iff, h.occursAt_iff text s e]
  constructor
  · rintro ⟨s', ⟨hle, hhere, hbefore⟩, rfl, rfl⟩
    exact ⟨hle, ⟨hhere, rfl⟩, hbefore⟩
  · rintro ⟨hle, ⟨hhere, rfl⟩, hbefore⟩
    exact ⟨s, ⟨hle, hhere, hbefore⟩, rfl, rfl⟩

/-- **There is no boundary** exactly if nothing occurs at or behind the place. -/
theorem locate_eq_none_iff_occursAt (hd : d.HasWords) :
    d.locate text start = none ↔ ∀ q, start ≤ q → ∀ stop, ¬ d.OccursAt text q stop := by
  obtain ⟨here, width, h⟩ := hd.exists_probes
  simp only [h.locate_eq, Option.map_eq_none_iff, seek_drop_eq_none_iff h.here_nil, h.here_eq_false_iff]

/-- An occurrence has a character. -/
lemma OccursAt.lt (hd : d.HasWords) (h : d.OccursAt text s e) : s < e := by
  obtain ⟨here, width, hprobes⟩ := hd.exists_probes
  have hpos := hprobes.positive
  have hend := ((hprobes.occursAt_iff text s e).1 h).2
  omega

/-- **The first occurrence, from other places and in longer texts.**  Take a character, a separator or a
class, a text, and a place to start from.

* A boundary lies at or behind the start and inside the text, is not empty, and is a delimiter; no delimiter
  begins between the start and it.  It is the boundary from every later start up to its own, and from the
  same start in every longer text.
* There is no boundary exactly if no delimiter begins at or behind the start. -/
theorem locate_first_occurrence (hd : d.HasWords) (text : List Char) (start : Nat) :
    (∀ s e, d.locate text start = some (s, e) →
        (start ≤ s ∧ s < e ∧ e ≤ text.length)
          ∧ d.Delimits (stretch text s e)
          ∧ (∀ q, start ≤ q → q < s → ∀ stop, ¬ d.OccursAt text q stop)
          ∧ (∀ later, start ≤ later → later ≤ s → d.locate text later = some (s, e))
          ∧ ∀ more, d.locate (text ++ more) start = some (s, e))
      ∧ (d.locate text start = none ↔ ∀ q, start ≤ q → ∀ stop, ¬ d.OccursAt text q stop) := by
  refine ⟨fun s e h => ?_, locate_eq_none_iff_occursAt hd⟩
  obtain ⟨hle, hat, hbefore⟩ := (locate_eq_some_iff_occursAt hd).1 h
  refine ⟨⟨hle, hat.lt hd, hat.1⟩, hat.2, hbefore, fun later hstart hlater => ?_,
    fun more => locate_grow hd.not_isPattern more h⟩
  -- fewer places come before it from a later start
  exact (locate_eq_some_iff_occursAt hd).2
    ⟨hlater, hat, fun q hq => hbefore q (Nat.le_trans hstart hq)⟩

end Search

/-- A separator of two equal characters.  In a run of three it is found at the first of them, behind that at
the second, and the last one alone is no separator. -/
theorem locate_first_occurrence_double :
    let d := Delimiter.literal ['-', '-'] (by decide)
    let text := ['a', '-', '-', '-']
    d.HasWords ∧ d.locate text 0 = some (1, 3)
      ∧ (∀ later, 0 ≤ later → later ≤ 1 → d.locate text later = some (1, 3))
      ∧ (∀ more, d.locate (text ++ more) 0 = some (1, 3))
      ∧ d.locate text 2 = some (2, 4) ∧ d.Delimits (stretch text 2 4)
      ∧ ∀ q, 3 ≤ q → ∀ stop, ¬ d.OccursAt text q stop := by
  intro d text
  have hd : d.HasWords := .literal _ _
  have hfirst : d.locate text 0 = some (1, 3) := by decide
  have hsecond : d.locate text 2 = some (2, 4) := by decide
  obtain ⟨-, -, -, hlater, hmore⟩ := (locate_first_occurrence hd text 0).1 1 3 hfirst
  exact ⟨hd, hfirst, hlater, hmore, hsecond, ((locate_first_occurrence hd text 2).1 2 4 hsecond).2.1,
    (locate_first_occurrence hd text 3).2.1 (by decide)⟩

end TextSplit.Delimiter
