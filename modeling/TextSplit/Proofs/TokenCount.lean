import TextSplit.Proofs.TokenEnds

/-!
# How many tokens there are

Dropping takes tokens away, a limit stops them, and an empty match at the end of the text loses one.
This file bounds what is left from both sides: there are never more tokens than the limit allows, nor
more than the text has places; none of them is empty if empty ones are dropped; and if they are not
dropped, there is always at least one.

* `length_render_le` — a limit is never exceeded.
* `Splitter.length_tokens_le` — neither is the number of places of the text.
* `Splitter.ne_nil_of_mem_tokens` — no token is empty where empty ones are dropped.  At the limit the
  right end is trimmed once more, and the character that the first trimming has left at the start
  stops it.
* `PatternSearch.TellsEmpty` — what is asked of a search on the empty text; `backtracking_tellsEmpty`.
* `Splitter.tokens_ne_nil` — there is a token where empty ones are kept.
* **`Splitter.tokens_counted`** — limit, emptiness and existence in one statement.
-/

namespace TextSplit

/-! ## Bounds -/

/-- A limit is never exceeded, whether it is reached or not. -/
lemma length_render_le (trimmer : Option CharClass) (text : List Char) (spans : List (Nat × Nat))
    {k : Nat} (hk : 0 < k) : (render trimmer text (some k) spans).length ≤ k := by
  rcases Nat.lt_or_ge spans.length k with hlt | hge
  · rw [render_of_length_lt hlt, List.length_map]
    exact Nat.le_of_lt hlt
  · obtain ⟨first, last, -, hrender⟩ := render_of_le_length trimmer text hk hge
    rw [hrender, List.length_append, List.length_map, List.length_take, List.length_singleton]
    omega

lemma length_render_le_length (trimmer : Option CharClass) (text : List Char) (left : Option Nat)
    (spans : List (Nat × Nat)) : (render trimmer text left spans).length ≤ spans.length := by
  induction spans generalizing left with
  | nil => exact Nat.le_refl 0
  | cons span rest ih =>
      rw [render]
      split_ifs
      · exact Nat.le_add_left 1 _
      · exact Nat.succ_le_succ (ih _)

lemma render_ne_nil {trimmer : Option CharClass} {text : List Char} {left : Option Nat}
    {spans : List (Nat × Nat)} (h : spans ≠ []) : render trimmer text left spans ≠ [] := by
  obtain ⟨span, rest, rfl⟩ := List.exists_cons_of_ne_nil h
  rw [render]
  split_ifs <;> exact List.cons_ne_nil _ _

/-- A text that starts with a rejected character is not trimmed to nothing. -/
lemma CharClass.StartsClean.stripEnd_ne_nil {k : CharClass} {token : List Char}
    (hclean : k.StartsClean token) (hne : token ≠ []) : k.stripEnd token ≠ [] := by
  obtain ⟨c, rest, rfl⟩ := List.exists_cons_of_ne_nil hne
  intro hnil
  have haccepts := List.rdropWhile_eq_nil_iff.1 hnil c List.mem_cons_self
  rw [hclean c rfl] at haccepts
  exact absurd haccepts Bool.false_ne_true

section Search

variable [PatternSearch]

/-- Every piece starts at a place of its own. -/
lemma Tiling.length_add_le {d : Delimiter} {text : List Char} {start : Nat} {cuts : List Cut}
    (h : Tiling d text start cuts) : cuts.length + start ≤ text.length + 1 := by
  induction h with
  | last inside =>
      rw [List.length_singleton]
      omega
  | lost =>
      rw [List.length_nil]
      omega
  | piece _ hlt _ _ _ ih =>
      rw [List.length_cons]
      omega

namespace Splitter

variable {s : Splitter} {text : List Char}

/-- **As many tokens as places.**  A text has one place more than it has characters. -/
theorem length_tokens_le (s : Splitter) (text : List Char) :
    (s.tokens text).length ≤ text.length + 1 := by
  have hcuts := (tiling_cutsFrom s.delimiter (Nat.zero_le text.length)).length_add_le
  have hspans : (s.spans text).length ≤ (s.delimiter.cutsFrom text 0).length := by
    rw [spans, spansFrom]
    exact (List.length_filter_le _ _).trans_eq (List.length_map _)
  rw [tokens_eq_render]
  have hrender := length_render_le_length s.trimmer text (s.limit.map Subtype.val) (s.spans text)
  omega

/-! ## Emptiness -/

/-- Where empty tokens are dropped, no kept span is empty. -/
lemma fst_lt_snd_of_mem_spans (homit : s.omitEmpty = true) {span : Nat × Nat}
    (h : span ∈ s.spans text) : span.1 < span.2 := by
  have hle := (spans_inside span h).1
  have hkept := (List.mem_filter.1 h).2
  rw [keeps, homit, Bool.true_and, Bool.not_eq_true', beq_eq_false_iff_ne] at hkept
  omega

/-- **No token is empty** where empty ones are dropped. -/
theorem ne_nil_of_mem_tokens (homit : s.omitEmpty = true) {token : List Char}
    (h : token ∈ s.tokens text) : token ≠ [] := by
  obtain ⟨i, hi⟩ := List.mem_iff_getElem?.1 h
  rw [tokens_eq_render] at hi
  obtain ⟨span, hspan, htoken⟩ := render_getElem? hi
  have hmem := List.mem_of_getElem? hspan
  have hlt := fst_lt_snd_of_mem_spans homit hmem
  have hin := (spans_inside span hmem).2
  rcases htoken with ⟨-, rfl⟩ | ⟨-, rfl⟩
  · rcases hk : s.trimmer with _ | k
    · rw [trimSpanEnd, ne_eq, stretch_to_length, List.drop_eq_nil_iff]
      omega
    · -- something is left of the piece, so its first character is rejected
      rw [← hk, stretch_to_end hk hmem]
      refine (startsClean_drop hk hmem (Nat.ne_of_lt hlt)).stripEnd_ne_nil ?_
      rw [ne_eq, List.drop_eq_nil_iff]
      omega
  · rw [ne_eq, ← List.length_eq_zero_iff, spanText, length_stretch]
    omega

end Splitter

/-! ## Existence -/

/-- A search finds a match in the empty text exactly for those patterns that match it as a whole. -/
def PatternSearch.TellsEmpty : Prop :=
  ∀ p : Pattern, (PatternSearch.find p [] 0).isSome = p.matchesEmpty

namespace Delimiter

lemma locate_nil (hsearch : PatternSearch.TellsEmpty) (d : Delimiter) :
    d.locate [] 0 = none := by
  cases d with
  | char c => rfl
  | literal separator hasChar =>
      obtain ⟨c, rest, rfl⟩ := List.exists_cons_of_ne_nil hasChar
      rfl
  | pattern p cuts =>
      have hfound := hsearch p
      rw [cuts, Option.isSome_eq_false_iff, Option.isNone_iff_eq_none] at hfound
      exact hfound
  | chunk length positive => rfl
  | charClass k => rfl

/-- **There is a piece.**  Only an empty match at the end of a text loses a piece, and where the text
begins it ends only if it is empty. -/
lemma cutsFrom_ne_nil (hsearch : PatternSearch.TellsEmpty) (d : Delimiter)
    (text : List Char) : d.cutsFrom text 0 ≠ [] := by
  rw [cutsFrom_eq]
  rcases cut_cases (d := d) (Nat.zero_le text.length) with ⟨-, hend, hl⟩ | hc
    | ⟨stop, n, place, hc, -⟩
  · obtain rfl : text = [] := List.length_eq_zero_iff.1 hend.symm
    rw [locate_nil hsearch] at hl
    exact absurd hl (by simp)
  · rw [hc]
    exact List.cons_ne_nil _ _
  · rw [hc]
    exact List.cons_ne_nil _ _

end Delimiter

namespace Splitter

variable {s : Splitter}

/-- **There is a token** where empty ones are kept. -/
theorem tokens_ne_nil (hsearch : PatternSearch.TellsEmpty)
    (hkeep : s.omitEmpty = false) (text : List Char) : s.tokens text ≠ [] := by
  rw [tokens_eq_render]
  refine render_ne_nil ?_
  have hall : ∀ span, s.keeps span = true := by
    simp [keeps, hkeep]
  rw [spans, spansFrom, List.filter_eq_self.2 fun span _ => hall span, ne_eq, List.map_eq_nil_iff]
  exact Delimiter.cutsFrom_ne_nil hsearch s.delimiter text

/-- **Counting tokens.**  Take any splitter and any text.

* There are never more tokens than the limit allows.
* If empty tokens are dropped, none of those that are left is empty, not even the one at the limit.
* If they are kept, there is a token, even in the empty text.  For patterns this rests on the search: a
  pattern that matches the empty text as a whole is no delimiter, and the search must not find any
  other in it. -/
theorem tokens_counted (s : Splitter) (text : List Char) :
    (∀ k, s.limit = some k → (s.tokens text).length ≤ k.1)
      ∧ (s.omitEmpty = true → ∀ token ∈ s.tokens text, token ≠ [])
      ∧ (s.omitEmpty = false → PatternSearch.TellsEmpty → s.tokens text ≠ []) := by
  refine ⟨fun k hk => ?_, fun homit token => ne_nil_of_mem_tokens homit, fun hkeep hsearch =>
    tokens_ne_nil hsearch hkeep text⟩
  rw [tokens_eq_render, hk, Option.map_some]
  exact length_render_le s.trimmer text (s.spans text) k.2

end Splitter

end Search

/-- In the empty text there is one place only, so the first match is a match of the whole. -/
lemma PatternSearch.backtracking_tellsEmpty : PatternSearch.TellsEmpty := by
  intro p
  show (Pattern.searchFrom p.tree #[] 0).isSome = (Pattern.matchAt p.tree #[] 0).isSome
  rw [Pattern.searchFrom]
  rcases Pattern.matchAt p.tree #[] 0 with _ | stop
  · rw [Pattern.searchFrom]
    rfl
  · rfl

/-- A text that is cut behind every comma has a token even if it is empty. -/
theorem Splitter.tokens_counted_behind_comma :
    PatternSearch.TellsEmpty
      ∧ ∃ p, Pattern.compile "(?<=,)".toList ⟨0⟩ = .ok p
        ∧ ∃ cuts, (plain (.pattern p cuts)).tokens [] ≠ [] := by
  have hempty : (Pattern.compile "(?<=,)".toList ⟨0⟩).toOption.map Pattern.matchesEmpty
      = some false := by
    decide +kernel
  refine ⟨PatternSearch.backtracking_tellsEmpty, ?_⟩
  rcases hp : Pattern.compile "(?<=,)".toList ⟨0⟩ with fault | p
  · rw [hp] at hempty
    exact absurd hempty (by simp [Except.toOption])
  · rw [hp] at hempty
    have hcuts : p.matchesEmpty = false := Option.some.inj hempty
    exact ⟨p, rfl, hcuts, (tokens_counted (plain (.pattern p hcuts)) []).2.2 rfl
      PatternSearch.backtracking_tellsEmpty⟩

end TextSplit
