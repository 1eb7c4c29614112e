import TextSplit.Proofs.Tiling
import Mathlib.Order.Bounds.Defs
import Mathlib.Tactic.IntervalCases

/-!
# Patterns that match nothing but places

A look-behind or a word boundary matches at a place and takes no character.  The boundary it gives lies
where the next piece starts, so the next search finds it again; the scan passes over it once and goes on
one character further.  This file shows what comes out: the text is cut at every place inside it where
the pattern matches, and nowhere else.  A match where the text begins or ends cuts nothing off.

* `PatternSearch.Leftmost` — a search finds the first match of a relation; `Pattern.leftmost_search` says
  so of the backtracking search.
* `Meets` — a place where two tokens meet; `meets_cons_iff` is the case of one token more.
* `Splitter.tokensFrom_cases` — the next match behind a place ends the token that starts there, unless
  the text ends there too.
* `Splitter.Joints` — what that gives for the tokens from a place on: `Joints.last` for the last one,
  `Joints.cons` for one more, and `joints_tokensFrom` for all.
* **`Splitter.meets_tokens_iff`** — tokens meet exactly at the matches inside the text.
-/

namespace TextSplit

/-! ## Searches -/

/-- The search for a pattern in a text finds, of all matches that start at or behind a place, one that
starts first, and it finds nothing only if there are none.  `Matches s e` says that the text between `s`
and `e` is a match. -/
structure PatternSearch.Leftmost [PatternSearch] (p : Pattern) (text : List Char)
    (Matches : Nat → Nat → Prop) : Prop where
  found : ∀ {start s e}, PatternSearch.find p text start = some (s, e) →
    Matches s e ∧ IsLeast {q | start ≤ q ∧ ∃ stop, Matches q stop} s
  missed : ∀ {start}, PatternSearch.find p text start = none → ∀ q stop, start ≤ q → ¬ Matches q stop

namespace Pattern

/-- Matching at a place of a text gives a match that ends at another. -/
def Matches (p : Pattern) (text : List Char) (s e : Nat) : Prop :=
  s ≤ text.length ∧ matchAt p.tree text.toArray s = some e

instance (p : Pattern) (text : List Char) (s e : Nat) : Decidable (p.Matches text s e) :=
  inferInstanceAs (Decidable (_ ∧ _))

/-- The backtracking search tries the places of a text one after another. -/
lemma leftmost_search (p : Pattern) (text : List Char) :
    PatternSearch.Leftmost p text (p.Matches text) where
  found {start s e} h := by
    replace h : searchFrom p.tree text.toArray start = some (s, e) := h
    fun_induction searchFrom p.tree text.toArray start with
    | case1 pos hpos stop hmatch =>
        simp only [Option.some.injEq, Prod.mk.injEq] at h
        obtain ⟨rfl, rfl⟩ := h
        have hat : p.Matches text pos stop := ⟨by simpa using hpos, hmatch⟩
        exact ⟨hat, ⟨Nat.le_refl pos, stop, hat⟩, fun q hq => hq.1⟩
    | case2 pos hpos hmatch ih =>
        obtain ⟨hat, hleast⟩ := ih h
        refine ⟨hat, ⟨Nat.le_of_succ_le hleast.1.1, e, hat⟩, ?_⟩
        rintro q ⟨hq, stop, hstop⟩
        rcases Nat.eq_or_lt_of_le hq with rfl | hlt
        · exact absurd (hmatch.symm.trans hstop.2) (by simp)
        · exact hleast.2 ⟨hlt, stop, hstop⟩
    | case3 pos hpos => exact absurd h (by simp)
  missed {start} h := by
    replace h : searchFrom p.tree text.toArray start = none := h
    fun_induction searchFrom p.tree text.toArray start with
    | case1 pos hpos stop hmatch => exact absurd h (by simp)
    | case2 pos hpos hmatch ih =>
        rintro q stop hq ⟨hin, hstop⟩
        rcases Nat.eq_or_lt_of_le hq with rfl | hlt
        · exact absurd (hmatch.symm.trans hstop) (by simp)
        · exact ih h q stop hlt ⟨hin, hstop⟩
    | case3 pos hpos =>
        rintro q stop hq ⟨hin, -⟩
        rw [List.size_toArray] at hpos
        omega

end Pattern

/-! ## Where tokens meet -/

/-- Two neighbouring tokens meet at a place: all text up to there belongs to the tokens before it. -/
def Meets (tokens : List (List Char)) (place : Nat) : Prop :=
  ∃ front behind, front ≠ [] ∧ behind ≠ [] ∧ tokens = front ++ behind ∧ front.flatten.length = place

lemma not_meets_singleton (token : List Char) (place : Nat) : ¬ Meets [token] place := by
  rintro ⟨front, behind, hfront, hbehind, heq, -⟩
  have hlen := congrArg List.length heq
  have := List.length_pos_of_ne_nil hfront
  have := List.length_pos_of_ne_nil hbehind
  rw [List.length_singleton, List.length_append] at hlen
  omega

/-- One token more before others meets the first of them, and the others meet where they did, moved by
its length. -/
lemma meets_cons_iff {token : List Char} {rest : List (List Char)} (hrest : rest ≠ []) {place : Nat} :
    Meets (token :: rest) place
      ↔ place = token.length ∨ ∃ q, Meets rest q ∧ place = token.length + q := by
  constructor
  · rintro ⟨front, behind, hfront, hbehind, heq, rfl⟩
    obtain ⟨first, more, rfl⟩ := List.exists_cons_of_ne_nil hfront
    obtain ⟨rfl, rfl⟩ := List.cons.inj heq
    rw [List.flatten_cons, List.length_append]
    by_cases hmore : more = []
    · exact Or.inl (by rw [hmore]; rfl)
    · exact Or.inr ⟨_, ⟨more, behind, hmore, hbehind, rfl, rfl⟩, rfl⟩
  · rintro (rfl | ⟨q, ⟨front, behind, hfront, hbehind, rfl, rfl⟩, rfl⟩)
    · exact ⟨[token], rest, List.cons_ne_nil _ _, hrest, rfl, by simp⟩
    · refine ⟨token :: front, behind, List.cons_ne_nil _ _, hbehind, rfl, ?_⟩
      rw [List.flatten_cons, List.length_append]

namespace Splitter

open PatternSearch (Leftmost)

variable [PatternSearch] {p : Pattern} {text : List Char} {Matches : Nat → Nat → Prop} {start : Nat}

/-! ## From one match to the next -/

/-- **What a piece is.**  The piece that starts at a place inside the text ends at the next match behind
that place, or at the end of the text if there is none.  A match at the place itself is found first, and
passed over. -/
lemma cut_cases_of_empty (cuts : p.matchesEmpty = false) (hleft : Leftmost p text Matches)
    (hempty : ∀ s e, Matches s e → s = e) (hstart : start < text.length) :
    ((Delimiter.pattern p cuts).cut text start = some ⟨start, text.length, none⟩
        ∧ ∀ q, start < q → ¬ Matches q q)
      ∨ ∃ n, (Delimiter.pattern p cuts).cut text start = some ⟨start, n, some n⟩ ∧ n ≤ text.length
        ∧ Matches n n ∧ IsLeast {q | start < q ∧ Matches q q} n := by
  -- a search from `place` that finds a match finds the first one behind `start`
  have hnext : ∀ {place s e}, place ≤ start + 1 → start < s →
      PatternSearch.find p text place = some (s, e) →
      e = s ∧ s ≤ text.length ∧ Matches s s ∧ IsLeast {q | start < q ∧ Matches q q} s := by
    intro place s e hplace hs hfind
    obtain ⟨hat, hleast⟩ := hleft.found hfind
    obtain rfl := hempty s e hat
    exact ⟨rfl, (PatternSearch.le_of_find hfind).2.2, hat, ⟨hs, hat⟩,
      fun q hq => hleast.2 ⟨hplace.trans hq.1, q, hq.2⟩⟩
  rw [Delimiter.cut]
  simp only [Delimiter.locate]
  rcases hfind : PatternSearch.find p text start with _ | ⟨s, e⟩
  · exact Or.inl ⟨rfl, fun q hq => hleft.missed hfind q q (Nat.le_of_lt hq)⟩
  · have hle := PatternSearch.le_of_find hfind
    by_cases he : e = start
    · simp only [if_pos he, if_pos hstart]
      rcases hagain : PatternSearch.find p text (start + 1) with _ | ⟨s', e'⟩
      · exact Or.inl ⟨rfl, fun q hq => hleft.missed hagain q q hq⟩
      · have hle' := PatternSearch.le_of_find hagain
        obtain ⟨rfl, hin, hat, hleast⟩ := hnext (Nat.le_refl _) hle'.1 hagain
        exact Or.inr ⟨e', rfl, hin, hat, hleast⟩
    · simp only [if_neg he]
      have hes : s = e := hempty s e (hleft.found hfind).1
      obtain ⟨rfl, hin, hat, hleast⟩ := hnext (Nat.le_succ _) (by omega) hfind
      exact Or.inr ⟨e, rfl, hin, hat, hleast⟩

lemma cut_length_of_empty (cuts : p.matchesEmpty = false) (hleft : Leftmost p text Matches)
    (hempty : ∀ s e, Matches s e → s = e) (hend : Matches text.length text.length) :
    (Delimiter.pattern p cuts).cut text text.length = none := by
  rw [Delimiter.cut]
  simp only [Delimiter.locate]
  rcases hfind : PatternSearch.find p text text.length with _ | ⟨s, e⟩
  · exact absurd hend (hleft.missed hfind _ _ (Nat.le_refl _))
  · have hle := PatternSearch.le_of_find hfind
    have hes : e = text.length := by
      have := hempty s e (hleft.found hfind).1
      omega
    simp only [if_pos hes, if_neg (Nat.lt_irrefl _)]

/-- **What the first token is.**  Either no place strictly between the start and the end of the text
matches, and the rest of the text is one token; or the first such place ends the token, and the other
tokens are those from there on. -/
theorem tokensFrom_cases (cuts : p.matchesEmpty = false) (hleft : Leftmost p text Matches)
    (hempty : ∀ s e, Matches s e → s = e) (hstart : start < text.length) :
    ((plain (.pattern p cuts)).tokensFrom text start none = [text.drop start]
        ∧ ∀ q, start < q → q < text.length → ¬ Matches q q)
      ∨ ∃ n, n < text.length ∧ IsLeast {q | start < q ∧ Matches q q} n
        ∧ (plain (.pattern p cuts)).tokensFrom text start none
          = stretch text start n :: (plain (.pattern p cuts)).tokensFrom text n none := by
  have hfirst : ∀ {c}, (Delimiter.pattern p cuts).cut text start = some c →
      (plain (.pattern p cuts)).tokensFrom text start none
        = stretch text c.start c.stop
          :: (plain (.pattern p cuts)).tokensBehind text c.next none := by
    intro c hc
    have hkeeps : ∀ span, (plain (.pattern p cuts)).keeps span = true := fun _ => rfl
    rw [tokensFrom_of_cut (s := plain (.pattern p cuts)) hc, if_pos (hkeeps _), if_neg (by simp)]
    rfl
  rcases cut_cases_of_empty cuts hleft hempty hstart with ⟨hc, hnone⟩
    | ⟨n, hc, hn, hat, hleast⟩
  · refine Or.inl ⟨?_, fun q hq _ => hnone q hq⟩
    rw [hfirst hc, stretch_to_length, tokensBehind]
  · rcases Nat.eq_or_lt_of_le hn with rfl | hlt
    · -- the match lies at the end of the text: it ends the last token, and no other follows
      refine Or.inl ⟨?_, fun q hq hqlt hq' => Nat.not_le.2 hqlt (hleast.2 ⟨hq, hq'⟩)⟩
      rw [hfirst hc, stretch_to_length, tokensBehind, tokensFrom_eq,
        pull_of_cut_eq_none (cut_length_of_empty cuts hleft hempty hat)]
    · exact Or.inr ⟨n, hlt, hleast, hfirst hc⟩

/-! ## All matches -/

/-- Tokens of the text from a place on: none of them is empty, they are that text, and they meet at the
matches strictly inside it. -/
structure Joints (Matches : Nat → Nat → Prop) (text : List Char) (start : Nat)
    (tokens : List (List Char)) : Prop where
  some_token : tokens ≠ []
  none_empty : ∀ token ∈ tokens, token ≠ []
  whole : tokens.flatten = text.drop start
  meets : ∀ q, Meets tokens q
    ↔ 0 < q ∧ start + q < text.length ∧ Matches (start + q) (start + q)

namespace Joints

omit [PatternSearch]

variable {n : Nat} {tokens : List (List Char)}

/-- Without a match inside it, the rest of the text is one token. -/
lemma last (hstart : start < text.length) (hnone : ∀ q, start < q → q < text.length → ¬ Matches q q) :
    Joints Matches text start [text.drop start] where
  some_token := List.cons_ne_nil _ _
  none_empty token htoken := by
    rw [List.mem_singleton.1 htoken, ne_eq, List.drop_eq_nil_iff]
    omega
  whole := List.flatten_singleton
  meets q := by
    refine iff_of_false (not_meets_singleton _ q) ?_
    rintro ⟨hq, hin, hat⟩
    exact hnone (start + q) (by omega) hin hat

/-- The text up to the first match is one token more.  It meets the first of the others at that match,
and every later match lies among the others. -/
lemma cons (hn : n < text.length) (hleast : IsLeast {q | start < q ∧ Matches q q} n)
    (h : Joints Matches text n tokens) :
    Joints Matches text start (stretch text start n :: tokens) := by
  have hlt : start < n := hleast.1.1
  have hlen : (stretch text start n).length = n - start := by
    rw [length_stretch]
    omega
  refine ⟨List.cons_ne_nil _ _, fun token htoken => ?_, ?_, fun q => ?_⟩
  · rcases List.mem_cons.1 htoken with rfl | htoken
    · rw [ne_eq, ← List.length_eq_zero_iff, hlen]
      omega
    · exact h.none_empty token htoken
  · rw [List.flatten_cons, h.whole, stretch_append_drop text (Nat.le_of_lt hlt)]
  · rw [meets_cons_iff h.some_token, hlen]
    constructor
    · rintro (rfl | ⟨r, hr, rfl⟩)
      · have hn' : start + (n - start) = n := by omega
        rw [hn']
        exact ⟨by omega, hn, hleast.1.2⟩
      · obtain ⟨-, hin, hat⟩ := (h.meets r).1 hr
        have hr' : start + (n - start + r) = n + r := by omega
        rw [hr']
        exact ⟨by omega, hin, hat⟩
    · rintro ⟨hq, hin, hat⟩
      have hge : n ≤ start + q := hleast.2 ⟨by omega, hat⟩
      rcases Nat.eq_or_lt_of_le hge with heq | hgt
      · exact Or.inl (by omega)
      · refine Or.inr ⟨start + q - n, (h.meets _).2 ?_, by omega⟩
        have hq' : n + (start + q - n) = start + q := by omega
        rw [hq']
        exact ⟨by omega, hin, hat⟩

end Joints

/-- **From every place inside the text.**  The recursion follows the scan from match to match. -/
theorem joints_tokensFrom (cuts : p.matchesEmpty = false) (hleft : Leftmost p text Matches)
    (hempty : ∀ s e, Matches s e → s = e) {start : Nat} (hstart : start < text.length) :
    Joints Matches text start ((plain (.pattern p cuts)).tokensFrom text start none) := by
  rcases tokensFrom_cases cuts hleft hempty hstart with ⟨htokens, hnone⟩ | ⟨n, hn, hleast, htokens⟩
  · rw [htokens]
    exact .last hstart hnone
  · have hlt : start < n := hleast.1.1
    rw [htokens]
    exact .cons hn hleast (joints_tokensFrom cuts hleft hempty hn)
termination_by text.length - start

/-- **Empty matches cut where they are.**  Take a pattern and a text that is not empty, in which the
pattern has empty matches only, and a search that finds the first match at or behind a place.  Then no
token is empty, the tokens are the text, and two of them meet exactly at the places strictly inside the
text where the pattern matches. -/
theorem meets_tokens_iff (cuts : p.matchesEmpty = false) (hleft : Leftmost p text Matches)
    (hempty : ∀ s e, Matches s e → s = e) (htext : text ≠ []) :
    let tokens := (plain (.pattern p cuts)).tokens text
    (∀ token ∈ tokens, token ≠ [])
      ∧ tokens.flatten = text
      ∧ ∀ q, Meets tokens q ↔ 0 < q ∧ q < text.length ∧ Matches q q := by
  have hjoints := joints_tokensFrom cuts hleft hempty (List.length_pos_of_ne_nil htext)
  have hmeets := hjoints.meets
  simp only [Nat.zero_add] at hmeets
  exact ⟨hjoints.none_empty, hjoints.whole, hmeets⟩

end Splitter

/-- Behind the commas of this text there are three places.  Two of them are neighbours, and both cut;
the third is the end of the text, and does not. -/
theorem Splitter.meets_tokens_behind_commas :
    ∃ p, Pattern.compile "(?<=,)".toList ⟨0⟩ = .ok p
      ∧ ∃ cuts, (∀ s e, p.Matches "a,,b,".toList s e → s = e)
        ∧ let tokens := (plain (.pattern p cuts)).tokens "a,,b,".toList
          tokens.flatten = "a,,b,".toList ∧ Meets tokens 2 ∧ Meets tokens 3 ∧ ¬ Meets tokens 5 := by
  have hcheck : (Pattern.compile "(?<=,)".toList ⟨0⟩).toOption.map (fun p =>
      (p.matchesEmpty, (List.range 6).map (Pattern.matchAt p.tree "a,,b,".toList.toArray)))
      = some (false, [none, none, some 2, some 3, none, some 5]) := by
    decide +kernel
  rcases hp : Pattern.compile "(?<=,)".toList ⟨0⟩ with fault | p
  · rw [hp] at hcheck
    exact absurd hcheck (by simp [Except.toOption])
  · rw [hp] at hcheck
    obtain ⟨hcuts, hplaces⟩ := Prod.mk.inj (Option.some.inj hcheck)
    simp only [List.range, List.range.loop, List.map_cons, List.map_nil, List.cons.injEq, and_true]
      at hplaces
    obtain ⟨h0, h1, h2, h3, h4, h5⟩ := hplaces
    have hempty : ∀ s e, p.Matches "a,,b,".toList s e → s = e := by
      rintro s e ⟨hs, hmatch⟩
      have hs' : s ≤ 5 := hs
      interval_cases s <;> simp_all
    obtain ⟨-, hwhole, hmeets⟩ :=
      meets_tokens_iff hcuts (Pattern.leftmost_search p _) hempty (by decide)
    refine ⟨p, rfl, hcuts, hempty, hwhole, (hmeets 2).2 ⟨by decide, by decide, by decide, h2⟩,
      (hmeets 3).2 ⟨by decide, by decide, by decide, h3⟩, fun h => ?_⟩
    exact absurd ((hmeets 5).1 h).2.1 (by decide)

end TextSplit
