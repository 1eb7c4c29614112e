import TextSplit.Proofs.EmptyMatches
import TextSplit.Proofs.Entries
import TextSplit.Proofs.Leftmost

/-!
# Four ways to cut at one character

A character can be given as itself, as a separator of length one, as a class that holds nothing else,
or as a pattern.  Each kind of delimiter has a search of its own, but these four look for the same
thing, and what a scan does depends on the boundaries alone.  So they cannot be told apart by what a
splitter makes of a text, whatever else it does to its tokens.

* `cutsFrom_congr`, `Splitter.tokens_congr` — pieces and tokens depend on the boundaries alone;
  `PairSplitter.split_congr` — pairs depend on the tokens alone.
* `StandsAt` — a character as a match; `CutsAt` — the four ways.
* `CutsAt.anyOf`, `CutsAt.ofTree` — the class of one character, and patterns that are one set.
* **`CutsAt.locate_eq`** — all four have the boundaries of the character itself.
* **`CutsAt.same_tokens`** — they make the same tokens, and the same pairs or the same report.
-/

namespace TextSplit

/-! ## What depends on the boundaries -/

/-- Pair splitters whose splitters have the same tokens have the same pairs, and the same fault if they
have none. -/
lemma PairSplitter.split_congr {m m' : PairSplitter}
    (hentries : ∀ text, m.entries.tokens text = m'.entries.tokens text)
    (hfields : ∀ entry, m.fieldSplitter.tokens entry = m'.fieldSplitter.tokens entry)
    (text : List Char) : m.split text = m'.split text := by
  rw [split, split, hentries, collect_congr hfields]

/-- Pair splitters with the same pairs give a caller the same pairs, or the same report. -/
lemma PairSplitter.splitValue_congr {m m' : PairSplitter} (h : ∀ text, m.split text = m'.split text)
    (text : String) : m.splitValue (.text text) = m'.splitValue (.text text) := by
  rw [← String.ofList_toList (s := text), splitValue_text, splitValue_text, h]

section Search

variable [PatternSearch]

namespace Delimiter

variable {d d' : Delimiter} {text : List Char}

lemma cut_congr (h : ∀ start, d.locate text start = d'.locate text start) (start : Nat) :
    d.cut text start = d'.cut text start := by
  simp only [cut, h]

/-- Delimiters with the same boundaries in a text cut it into the same pieces. -/
lemma cutsFrom_congr (h : ∀ start, d.locate text start = d'.locate text start) (start : Nat) :
    d.cutsFrom text start = d'.cutsFrom text start := by
  induction start using cutsFrom.induct d text with
  | case1 start hc => rw [cutsFrom_eq, cutsFrom_eq, ← cut_congr h, hc]
  | case2 start c hc hn =>
      rw [cutsFrom_eq, cutsFrom_eq, ← cut_congr h, hc]
      simp only [hn, cutsBehind]
  | case3 start c hc n hn ih =>
      rw [cutsFrom_eq, cutsFrom_eq, ← cut_congr h, hc]
      simp only [hn, cutsBehind, ih]

end Delimiter

/-- Splitters that differ in their delimiters alone, and these have the same boundaries in a text, have
the same tokens. -/
lemma Splitter.tokens_congr {d d' : Delimiter} {text : List Char}
    (h : ∀ start, d.locate text start = d'.locate text start) (s : Splitter) :
    ({ s with delimiter := d } : Splitter).tokens text
      = ({ s with delimiter := d' } : Splitter).tokens text := by
  rw [tokens_eq_render, tokens_eq_render, spans, spans, spansFrom, spansFrom,
    Delimiter.cutsFrom_congr h]
  rfl

/-! ## Searches for one character -/

/-- A character stands between two places of a text. -/
def StandsAt (c : Char) (text : List Char) (s e : Nat) : Prop := text[s]? = some c ∧ e = s + 1

/-- If the start of a match tells its end, a search that finds the first match is told by the matches. -/
lemma PatternSearch.Leftmost.find_eq_some_iff {p : Pattern} {text : List Char}
    {Matches : Nat → Nat → Prop} (hleft : PatternSearch.Leftmost p text Matches)
    (hend : ∀ {s e e'}, Matches s e → Matches s e' → e = e') {start s e : Nat} :
    PatternSearch.find p text start = some (s, e)
      ↔ Matches s e ∧ IsLeast {q | start ≤ q ∧ ∃ stop, Matches q stop} s := by
  refine ⟨hleft.found, ?_⟩
  rintro ⟨hat, hleast⟩
  rcases hfind : PatternSearch.find p text start with _ | ⟨s', e'⟩
  · exact absurd hat (hleft.missed hfind s e hleast.1.1)
  · obtain ⟨hat', hleast'⟩ := hleft.found hfind
    obtain rfl := hleast.unique hleast'
    rw [hend hat hat']

namespace Delimiter

variable {c : Char} {text : List Char} {start : Nat}

/-- A character is found where it stands first. -/
lemma locate_char_eq_some_iff {s e : Nat} :
    (Delimiter.char c).locate text start = some (s, e)
      ↔ StandsAt c text s e ∧ IsLeast {q | start ≤ q ∧ ∃ stop, StandsAt c text q stop} s := by
  have hstands : ∀ q, (∃ stop, StandsAt c text q stop) ↔ text[q]? = some c := fun q => by
    simp [StandsAt]
  have hseek : ∀ a, seek (fun rest => rest.head? == some c) (text.drop start) start = some a
      ↔ start ≤ a ∧ text[a]? = some c ∧ ∀ q, start ≤ q → q < a → text[q]? ≠ some c := fun a => by
    rw [seek_drop_eq_some_iff rfl]
    simp only [List.head?_drop, beq_iff_eq, beq_eq_false_iff_ne]
  simp only [locate, Option.map_eq_some_iff, Prod.mk.injEq, hseek, hstands]
  constructor
  · rintro ⟨a, ⟨hle, hat, hbefore⟩, rfl, rfl⟩
    exact ⟨⟨hat, rfl⟩, ⟨hle, hat⟩, fun q hq => Nat.not_lt.1 fun hlt => hbefore q hq.1 hlt hq.2⟩
  · rintro ⟨⟨hat, rfl⟩, hleast⟩
    exact ⟨s, ⟨hleast.1.1, hat, fun q hq hlt hat' => Nat.not_le.2 hlt (hleast.2 ⟨hq, hat'⟩)⟩, rfl, rfl⟩

/-- **Four ways to cut at one character**: the character itself, the separator that it is, a class that
accepts nothing else, and a pattern whose search finds the first place where the character stands, in
every text and from every place. -/
inductive CutsAt (c : Char) : Delimiter → Prop
  | char : CutsAt c (.char c)
  | literal (hasChar : [c] ≠ []) : CutsAt c (.literal [c] hasChar)
  | charClass {k : CharClass} (only : ∀ b, k.accepts b = true ↔ b = c) : CutsAt c (.charClass k)
  | pattern {p : Pattern} (cuts : p.matchesEmpty = false)
      (finds : ∀ text, PatternSearch.Leftmost p text (StandsAt c text)) : CutsAt c (.pattern p cuts)

namespace CutsAt

variable {d d' : Delimiter}

/-- The class of one character accepts nothing else. -/
lemma anyOf : CutsAt c (.charClass (.anyOf [c])) := by
  refine .charClass fun b => ?_
  rw [CharClass.accepts_iff]
  simp [CharClass.anyOf, TextSet.ofChars]

/-- **The boundaries are the same**, in every text and from every place. -/
theorem locate_eq (h : d.CutsAt c) (text : List Char) (start : Nat) :
    d.locate text start = (Delimiter.char c).locate text start := by
  cases h with
  | char => rfl
  | literal hasChar =>
      have hchar : separator? (.char c) = some [c] := rfl
      have hliteral : separator? (.literal [c] hasChar) = some [c] := rfl
      rw [locate_of_separator? hchar, locate_of_separator? hliteral]
  | @charClass k only =>
      have hsame : (fun rest : List Char => rest.head?.any k.accepts)
          = fun rest => rest.head? == some c := by
        funext rest
        cases rest with
        | nil => rfl
        | cons b rest =>
            rw [List.head?_cons, Option.any_some, Bool.eq_iff_iff, only, beq_iff_eq,
              Option.some.injEq]
      rw [locate, locate, hsame]
  | @pattern p cuts finds =>
      refine Option.ext fun span => ?_
      have hend : ∀ {s e e'}, StandsAt c text s e → StandsAt c text s e' → e = e' :=
        fun h h' => h.2.trans h'.2.symm
      exact ((finds text).find_eq_some_iff hend).trans locate_char_eq_some_iff.symm

/-- The tokens are the same, whatever a splitter does to the pieces. -/
lemma tokens_eq (h : d.CutsAt c) (h' : d'.CutsAt c) (s : Splitter) (text : List Char) :
    ({ s with delimiter := d } : Splitter).tokens text
      = ({ s with delimiter := d' } : Splitter).tokens text :=
  s.tokens_congr fun start => (h.locate_eq text start).trans (h'.locate_eq text start).symm

end CutsAt

end Delimiter

end Search

namespace Delimiter.CutsAt

variable {c : Char}

/-- A pattern that is one set of characters, and a set that accepts one character, find the first place
where it stands. -/
lemma ofTree {p : Pattern} {set : Pattern.CharSet} (cuts : p.matchesEmpty = false)
    (htree : p.tree = .seq (.one set) .empty) (only : ∀ b, set.accepts b = true ↔ b = c) :
    CutsAt c (.pattern p cuts) := by
  refine .pattern cuts fun text => ?_
  have hmatches : p.Matches text = StandsAt c text := by
    funext s e
    refine propext ?_
    have hend : Pattern.matchAt p.tree text.toArray s = some e ↔ StandsAt c text s e := by
      rw [htree, Pattern.matchAt]
      simp only [Pattern.run, List.getElem?_toArray, StandsAt]
      rcases text[s]? with _ | b
      · simp
      · by_cases hb : set.accepts b = true
        · obtain rfl := (only b).1 hb
          simp only [hb, if_true, Option.map_some, Option.some.injEq, true_and]
          exact eq_comm
        · simp [hb, mt (only b).2 hb]
    exact ⟨fun h => hend.1 h.2, fun h =>
      ⟨Nat.le_of_lt (List.getElem?_eq_some_iff.1 h.1).1, hend.2 h⟩⟩
  rw [← hmatches]
  exact p.leftmost_search text

/-- **Four ways that are one.**  Take a character, and delimiters that cut at it: the character itself,
the separator that it is, a class that accepts nothing else, such as the one a caller gets for a single
character, or a pattern whose search finds the first place where it stands.

* Under the same trimmer, the same choice about empty tokens and the same limit, splitters on any two
  of them make the same tokens of every text, and they do so whatever else finds matches of patterns.
* In a pair splitter, one can stand for the other where entries are cut and where fields are cut: the
  pairs are the same, or the fault and the report on it are. -/
theorem same_tokens (c : Char) :
    (CharClass.ofSingle (.text c.toString) = .ok (.anyOf [c]) ∧ CutsAt c (.charClass (.anyOf [c])))
      ∧ (∀ [PatternSearch] {d d' : Delimiter}, d.CutsAt c → d'.CutsAt c →
        ∀ (s : Splitter) (text : List Char),
          ({ s with delimiter := d } : Splitter).tokens text
            = ({ s with delimiter := d' } : Splitter).tokens text)
      ∧ ∀ {d d' : Delimiter}, d.CutsAt c → d'.CutsAt c → ∀ (s other : Splitter) (text : String),
        let a : Splitter := { s with delimiter := d }
        let b : Splitter := { s with delimiter := d' }
        ((PairSplitter.mk a other).split text.toList = (PairSplitter.mk b other).split text.toList
          ∧ (PairSplitter.mk a other).splitValue (.text text)
            = (PairSplitter.mk b other).splitValue (.text text))
        ∧ (PairSplitter.mk other a).split text.toList = (PairSplitter.mk other b).split text.toList
          ∧ (PairSplitter.mk other a).splitValue (.text text)
            = (PairSplitter.mk other b).splitValue (.text text) := by
  have hclass : CharClass.ofSingle (.text c.toString) = .ok (.anyOf [c]) := by
    simp [CharClass.ofSingle, Value.text?]
  refine ⟨⟨hclass, anyOf⟩, fun h h' s text => h.tokens_eq h' s text,
    fun {d d'} h h' s other text => ?_⟩
  intro a b
  have hentries : ∀ t, (PairSplitter.mk a other).split t = (PairSplitter.mk b other).split t :=
    PairSplitter.split_congr (h.tokens_eq h' s) fun _ => rfl
  -- an entry is cut under a limit that depends on the options alone
  have hfields : ∀ t, (PairSplitter.mk other a).split t = (PairSplitter.mk other b).split t :=
    PairSplitter.split_congr (fun _ => rfl) fun entry => by
      rw [PairSplitter.fieldSplitter_eq, PairSplitter.fieldSplitter_eq]
      exact h.tokens_eq h' (s.limited (PairSplitter.fieldLimit s.limit)) entry
  exact ⟨⟨hentries _, PairSplitter.splitValue_congr hentries _⟩,
    hfields _, PairSplitter.splitValue_congr hfields _⟩

/-- The comma as a pattern: its tokens and its pairs are those of the comma as a character. -/
theorem same_tokens_of_comma :
    ∃ p, Pattern.compile ",".toList ⟨0⟩ = .ok p ∧ ∃ cuts, CutsAt ',' (.pattern p cuts)
      ∧ (Splitter.mk (.pattern p cuts) (some .blanks) true (some ⟨2, by decide⟩)).tokens
        " a,, b ,c".toList = ["a".toList, "b ,c".toList]
      ∧ (PairSplitter.mk (.plain (.pattern p cuts)) (.plain (.char '='))).split "a=1,b=2".toList
        = .ok [("a".toList, "1".toList), ("b".toList, "2".toList)] := by
  have hread : (Pattern.compile ",".toList ⟨0⟩).toOption.map (fun p => (p.matchesEmpty, p.tree))
      = some (false, .seq (.one ⟨false, [.code 44], .exact⟩) .empty) := by
    decide +kernel
  rcases hp : Pattern.compile ",".toList ⟨0⟩ with fault | p
  · rw [hp] at hread
    exact absurd hread (by simp [Except.toOption])
  · rw [hp] at hread
    obtain ⟨hcuts, htree⟩ := Prod.mk.inj (Option.some.inj hread)
    have hcomma : CutsAt ',' (.pattern p hcuts) := by
      refine .ofTree hcuts htree fun b => ?_
      simp [Pattern.CharSet.accepts, Pattern.SetItem.holds, ← Char.toNat_inj]
    obtain ⟨-, htokens, hpairs⟩ := same_tokens ','
    refine ⟨p, rfl, hcuts, hcomma, ?_, ?_⟩
    · refine (htokens hcomma .char ⟨.char ',', some .blanks, true, some ⟨2, by decide⟩⟩ _).trans ?_
      decide +kernel
    · refine (hpairs hcomma .char (.plain (.char ',')) (.plain (.char '=')) "a=1,b=2").1.1.trans ?_
      decide +kernel

end Delimiter.CutsAt

end TextSplit
