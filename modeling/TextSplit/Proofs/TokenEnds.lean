import TextSplit.Proofs.Limit

/-!
# The ends of trimmed tokens

A splitter with a trimmer promises tokens that neither start nor end with a trimmed character.  The
right end of a token is always trimmed last, so it keeps the promise.  The left end is trimmed before
a limit stretches the token to the end of the text.  If the piece there has been trimmed to nothing,
the token starts with whatever stood behind the piece.

* `CharClass.StartsClean`, `EndsClean`, `Trimmed` — what is promised of a token.
* `CharClass.trimmed_strip` — stripping keeps the promise.
* `render_getElem?` — every token comes from the span at its place in the list.
* `Splitter.startsClean_drop`, `startsClean_at_limit` — a piece of which something is left gives the token
  at the limit a clean start.
* `Splitter.Bare` — the one way to break the promise.
* **`Splitter.trimmed_tokens`** — which tokens are trimmed at which end.
-/

namespace TextSplit

/-! ## Clean ends -/

namespace CharClass

variable {k : CharClass} {token whole : List Char}

/-- A text does not start with an accepted character. -/
def StartsClean (k : CharClass) (token : List Char) : Prop := ∀ c ∈ token.head?, k.accepts c = false

/-- A text does not end with an accepted character. -/
def EndsClean (k : CharClass) (token : List Char) : Prop := ∀ c ∈ token.getLast?, k.accepts c = false

/-- A text neither starts nor ends with an accepted character. -/
def Trimmed (k : CharClass) (token : List Char) : Prop := k.StartsClean token ∧ k.EndsClean token

/-- What starts a text starts as clean as the text does. -/
lemma StartsClean.of_start (hclean : k.StartsClean whole) (hstarts : token <+: whole) :
    k.StartsClean token := by
  intro c hc
  obtain ⟨rest, rfl⟩ := hstarts
  refine hclean c ?_
  rw [List.head?_append, Option.mem_def.1 hc]
  rfl

/-- A text starts as clean as what it starts with, if that is something. -/
lemma StartsClean.of_append (hclean : k.StartsClean token) (hne : token ≠ []) (rest : List Char) :
    k.StartsClean (token ++ rest) := by
  intro c hc
  rw [List.head?_append_of_ne_nil _ hne] at hc
  exact hclean c hc

lemma prefix_of_stripEnd (k : CharClass) (token : List Char) : k.stripEnd token <+: token :=
  List.rdropWhile_prefix _ _

lemma endsClean_stripEnd (k : CharClass) (token : List Char) : k.EndsClean (k.stripEnd token) := by
  intro c hc
  obtain ⟨hne, rfl⟩ := List.mem_getLast?_eq_getLast hc
  exact Bool.eq_false_iff.2 (List.rdropWhile_last_not k.accepts token hne)

/-- Stripping a text trims it at both ends. -/
lemma trimmed_strip (k : CharClass) (token : List Char) : k.Trimmed (k.strip token) := by
  have hdropped : k.StartsClean (token.dropWhile k.accepts) := by
    intro c hc
    have hnot := List.head?_dropWhile_not k.accepts token
    rw [Option.mem_def.1 hc] at hnot
    exact hnot
  exact ⟨hdropped.of_start (k.prefix_of_stripEnd _), k.endsClean_stripEnd _⟩

end CharClass

/-! ## Tokens and their spans -/

/-- **Every token comes from the span at its place.**  At the limit it is the text from the start of the
span on, trimmed at the right end; before the limit it is the text of the span.  The induction is on the
spans; a limit goes down by one as the place does. -/
lemma render_getElem? {trimmer : Option CharClass} {text token : List Char} {left : Option Nat}
    {spans : List (Nat × Nat)} {i : Nat}
    (h : (render trimmer text left spans)[i]? = some token) :
    ∃ span, spans[i]? = some span
      ∧ ((left = some (i + 1) ∧ token = stretch text span.1 (trimSpanEnd trimmer text span.1 text.length))
        ∨ (left ≠ some (i + 1) ∧ token = spanText text span)) := by
  induction spans generalizing left i with
  | nil => simp [render] at h
  | cons span rest ih =>
      rw [render] at h
      split_ifs at h with hleft
      · cases i with
        | zero => exact ⟨span, rfl, Or.inl ⟨hleft, by simpa using h.symm⟩⟩
        | succ i => simp at h
      · cases i with
        | zero => exact ⟨span, rfl, Or.inr ⟨hleft, by simpa using h.symm⟩⟩
        | succ i =>
            obtain ⟨found, hfound, htoken⟩ := ih (List.getElem?_cons_succ ▸ h)
            have hcount : left.map (· - 1) = some (i + 1) ↔ left = some (i + 1 + 1) := by
              cases left with
              | none => simp
              | some n =>
                  simp only [Option.map_some, Option.some.injEq]
                  omega
            rw [hcount, ne_eq, hcount] at htoken
            exact ⟨found, hfound, htoken⟩

namespace Splitter

variable [PatternSearch] {s : Splitter} {k : CharClass} {text : List Char} {span : Nat × Nat}

/-- The token at the limit as a text: all from the start of its span on, trimmed at the right end. -/
lemma stretch_to_end (hk : s.trimmer = some k) (hspan : span ∈ s.spans text) :
    stretch text span.1 (trimSpanEnd s.trimmer text span.1 text.length)
      = k.stripEnd (text.drop span.1) := by
  have hin := spans_inside span hspan
  rw [stretch_trimSpanEnd s.trimmer (Nat.le_trans hin.1 hin.2) (Nat.le_refl _), stretch_to_length, hk]
  rfl

/-- Every kept span is what trimming leaves of some piece. -/
lemma trimmed_spanText (hk : s.trimmer = some k) (hspan : span ∈ s.spans text) :
    k.Trimmed (spanText text span) := by
  obtain ⟨c, hc, rfl⟩ := List.mem_map.1 (List.mem_filter.1 hspan).1
  have hin := Delimiter.cutsFrom_inside s.delimiter text c hc
  rw [spanText_span hin.1 hin.2, hk]
  exact k.trimmed_strip _

/-- **A piece of which something is left** starts clean, and so does all text from there on. -/
lemma startsClean_drop (hk : s.trimmer = some k) (hspan : span ∈ s.spans text)
    (hne : span.1 ≠ span.2) : k.StartsClean (text.drop span.1) := by
  have hin := spans_inside span hspan
  have hsome : spanText text span ≠ [] := by
    rw [ne_eq, ← List.length_eq_zero_iff, spanText, length_stretch]
    omega
  have hsplit : spanText text span ++ text.drop span.2 = text.drop span.1 :=
    stretch_append_drop text hin.1
  have hstart := (trimmed_spanText hk hspan).1.of_append hsome (text.drop span.2)
  rwa [hsplit] at hstart

/-- Trimming the right end of that text leaves its start alone. -/
lemma startsClean_at_limit (hk : s.trimmer = some k) (hspan : span ∈ s.spans text)
    (hne : span.1 ≠ span.2) : k.StartsClean (k.stripEnd (text.drop span.1)) :=
  (startsClean_drop hk hspan hne).of_start (k.prefix_of_stripEnd _)

/-- The token at the limit starts at a place where a piece has been trimmed to nothing. -/
def Bare (s : Splitter) (text : List Char) (place : Nat) : Prop :=
  ∃ n, s.limit = some n ∧ (s.spans text)[n.1 - 1]? = some (place, place)

/-- Only a limit makes a bare start, and only if empty tokens are kept. -/
lemma not_bare (h : s.limit = none ∨ s.omitEmpty = true) (place : Nat) : ¬ s.Bare text place := by
  rintro ⟨n, hlimit, hspan⟩
  rcases h with hnone | homit
  · rw [hnone] at hlimit
    exact absurd hlimit (by simp)
  · have hkept := (List.mem_filter.1 (List.mem_of_getElem? hspan)).2
    simp [keeps, homit] at hkept

/-- What a token of a splitter with a trimmer is. -/
lemma token_cases (hk : s.trimmer = some k) {i : Nat} {token : List Char}
    (h : (s.tokens text)[i]? = some token) :
    ∃ span, (s.spans text)[i]? = some span
      ∧ ((s.limit.map Subtype.val = some (i + 1) ∧ token = k.stripEnd (text.drop span.1))
        ∨ (s.limit.map Subtype.val ≠ some (i + 1) ∧ k.Trimmed token)) := by
  rw [tokens_eq_render] at h
  obtain ⟨span, hspan, htoken⟩ := render_getElem? h
  have hmem := List.mem_of_getElem? hspan
  refine ⟨span, hspan, ?_⟩
  rcases htoken with ⟨hlimit, rfl⟩ | ⟨hlimit, rfl⟩
  · exact Or.inl ⟨hlimit, stretch_to_end hk hmem⟩
  · exact Or.inr ⟨hlimit, trimmed_spanText hk hmem⟩

/-- The token at the limit is there if its span is. -/
lemma mem_tokens_of_limit (hk : s.trimmer = some k) {n : Limit} (hlimit : s.limit = some n)
    (hspan : (s.spans text)[n.1 - 1]? = some span) :
    k.stripEnd (text.drop span.1) ∈ s.tokens text := by
  obtain ⟨hlt, -⟩ := List.getElem?_eq_some_iff.1 hspan
  obtain ⟨first, last, hget, hrender⟩ :=
    render_of_le_length s.trimmer text n.2 (show n.1 ≤ (s.spans text).length by omega)
  obtain rfl : (first, last) = span := Option.some.inj (hget.symm.trans hspan)
  rw [tokens_eq_render, hlimit, Option.map_some, hrender,
    stretch_to_end hk (List.mem_of_getElem? hspan)]
  exact List.mem_append_right _ (List.mem_singleton_self _)

/-- **Which tokens are trimmed.**  Every token is trimmed at its right end, and every token but the one at
the limit is trimmed at both.  All of them are unless the token at the limit has a bare start, and an
accepted character stands there with a rejected one somewhere behind it.  Without a limit, or if empty
tokens are dropped, no start is bare. -/
theorem trimmed_tokens (s : Splitter) (k : CharClass) (text : List Char) :
    (∀ token ∈ (s.trimming k).tokens text, k.EndsClean token)
      ∧ (∀ (i : Nat) (token : List Char), ((s.trimming k).tokens text)[i]? = some token →
          s.limit.map Subtype.val ≠ some (i + 1) → k.Trimmed token)
      ∧ ((∀ token ∈ (s.trimming k).tokens text, k.Trimmed token)
          ↔ ∀ place, (s.trimming k).Bare text place →
              k.StartsClean (k.stripEnd (text.drop place)))
      ∧ (s.limit = none ∨ s.omitEmpty = true →
          ∀ token ∈ (s.trimming k).tokens text, k.Trimmed token) := by
  have hk : (s.trimming k).trimmer = some k := rfl
  have hlast : ∀ token ∈ (s.trimming k).tokens text, k.EndsClean token := by
    intro token htoken
    obtain ⟨i, hi⟩ := List.mem_iff_getElem?.1 htoken
    obtain ⟨span, -, ⟨-, rfl⟩ | ⟨-, htrimmed⟩⟩ := token_cases hk hi
    · exact k.endsClean_stripEnd _
    · exact htrimmed.2
  have hall : (∀ token ∈ (s.trimming k).tokens text, k.Trimmed token)
      ↔ ∀ place, (s.trimming k).Bare text place → k.StartsClean (k.stripEnd (text.drop place)) := by
    constructor
    · rintro htrimmed place ⟨n, hlimit, hspan⟩
      exact (htrimmed _ (mem_tokens_of_limit hk hlimit hspan)).1
    · intro hbare token htoken
      obtain ⟨i, hi⟩ := List.mem_iff_getElem?.1 htoken
      obtain ⟨span, hspan, ⟨hlimit, rfl⟩ | ⟨-, htrimmed⟩⟩ := token_cases hk hi
      · obtain ⟨n, hn, hni⟩ := Option.map_eq_some_iff.1 hlimit
        refine ⟨?_, k.endsClean_stripEnd _⟩
        by_cases hne : span.1 = span.2
        · refine hbare span.1 ⟨n, hn, ?_⟩
          rw [hni, Nat.add_sub_cancel, hspan, ← Prod.eta span, ← hne]
        · exact startsClean_at_limit hk (List.mem_of_getElem? hspan) hne
      · exact htrimmed
  refine ⟨hlast, fun i token hi hlimit => ?_, hall, fun h => hall.2 fun place hbare => ?_⟩
  · obtain ⟨span, -, ⟨hat, -⟩ | ⟨-, htrimmed⟩⟩ := token_cases hk hi
    · exact absurd hat hlimit
    · exact htrimmed
  · exact absurd hbare (not_bare (s := s.trimming k) h place)

end Splitter

/-- Between two blanks in a row there is nothing; the token at the limit starts there, with a blank. -/
theorem not_trimmed_words :
    let s := ((Splitter.plain (.char ' ')).trimming .blanks).limited ⟨2, by decide⟩
    s.tokens ['a', ' ', ' ', 'b'] = [['a'], [' ', 'b']]
      ∧ s.Bare ['a', ' ', ' ', 'b'] 2 ∧ ¬ CharClass.blanks.Trimmed [' ', 'b'] := by
  intro s
  have hspans : s.spans ['a', ' ', ' ', 'b'] = [(0, 1), (2, 2), (3, 4)] := by decide +kernel
  refine ⟨by decide +kernel, ⟨⟨2, by decide⟩, rfl, by rw [hspans]; rfl⟩, fun htrimmed => ?_⟩
  have hblank : CharClass.blanks.accepts ' ' = false := htrimmed.1 ' ' rfl
  exact absurd hblank (by decide)

end TextSplit
