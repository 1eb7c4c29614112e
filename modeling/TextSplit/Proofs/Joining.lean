import TextSplit.Proofs.Entries
import TextSplit.Proofs.Leftmost
import TextSplit.Proofs.Restart
import TextSplit.Proofs.Tiling

/-!
# Splitting and joining

Joining texts with a separator and cutting the result at that separator again are inverse to each
other, in one direction always and in the other under a condition: the separator must not be seen
before its place.  For pairs there are two separators, and the limit of two fields makes the value
reach to the end of its entry, whatever it holds.

* `intercalate_tokens` — the tokens of any text, joined, are the text.
* **`tokens_intercalate`** — the tokens of joined texts, each of which closes the separator behind it,
  are these texts.
* `cells_of_locate` — the fields of an entry: what lies before the first separator and what lies
  behind it.
* `PairSplitter.joined` — pairs written as a text; `PairSplitter.ofSeparators` — the splitter that
  reads them.
* **`joined_of_split`**, `not_infix_of_split` — a text that is read as pairs is these pairs, joined.
* **`split_joined_of_closes`** — pairs that are joined are read back if no separator is seen too early.
* **`split_joined`** — both, for the separators that a caller gives.
-/

namespace TextSplit

/-! ## Tokens -/

namespace Splitter

variable [PatternSearch] {d : Delimiter} {sep : List Char}

/-- The tokens of a text, joined with the separator, are the text. -/
lemma intercalate_tokens (hd : d.separator? = some sep) (text : List Char) :
    sep.intercalate ((plain d).tokens text) = text := by
  refine intercalate_tokens_plain (Delimiter.not_isPattern_of_separator? hd) text ?_
  rintro place ⟨a, b⟩ hl
  obtain ⟨-, rfl, hpre, -⟩ := (Delimiter.locate_eq_some_iff hd).1 hl
  rw [spanText, stretch, Nat.add_sub_cancel_left]
  exact (List.prefix_iff_eq_take.1 hpre).symm

/-- A text that closes the separator behind it is the first token. -/
lemma tokens_append (hd : d.separator? = some sep) {t : List Char}
    (ht : Delimiter.Closes sep t) (rest : List Char) :
    (plain d).tokens (t ++ sep ++ rest) = t :: (plain d).tokens rest := by
  have hrec := tokensFrom_of_locate (s := plain d) (Delimiter.not_isPattern_of_separator? hd)
    ⟨rfl, rfl⟩ (t ++ sep ++ rest) none (by simp)
  rw [show (plain d).delimiter = d from rfl, Delimiter.locate_append hd ht] at hrec
  refine hrec.trans ?_
  simp only
  rw [← List.length_append, List.drop_left, List.append_assoc, List.take_left]
  rfl

/-- A text that does not hold the separator is its only token. -/
lemma tokens_of_not_infix (hd : d.separator? = some sep) {t : List Char} (ht : ¬ sep <:+: t) :
    (plain d).tokens t = [t] := by
  have hrec := tokensFrom_of_locate (s := plain d) (Delimiter.not_isPattern_of_separator? hd)
    ⟨rfl, rfl⟩ t none (by simp)
  rw [show (plain d).delimiter = d from rfl, Delimiter.locate_eq_none_of_not_infix hd ht] at hrec
  exact hrec

/-- **Splitting undoes joining** if the last text does not hold the separator and every other one
closes it. -/
theorem tokens_intercalate (hd : d.separator? = some sep) {ts : List (List Char)} (hne : ts ≠ [])
    (hclose : ∀ t ∈ ts.dropLast, Delimiter.Closes sep t) (hlast : ∀ t ∈ ts.getLast?, ¬ sep <:+: t) :
    (plain d).tokens (sep.intercalate ts) = ts := by
  induction ts with
  | nil => exact absurd rfl hne
  | cons t ts ih =>
      cases ts with
      | nil =>
          rw [List.intercalate_singleton]
          exact tokens_of_not_infix hd (hlast t rfl)
      | cons u us =>
          rw [List.dropLast_cons_cons] at hclose
          rw [List.getLast?_cons_cons] at hlast
          rw [List.intercalate_cons_of_ne_nil (List.cons_ne_nil u us),
            tokens_append hd (hclose t List.mem_cons_self),
            ih (List.cons_ne_nil u us) (fun t ht => hclose t (List.mem_cons_of_mem _ ht)) hlast]

end Splitter

/-! ## Pairs -/

namespace PairSplitter

/-- Pairs written one after another: key and value with a separator between them, and entries with
another. -/
def joined (entrySep fieldSep : List Char) (pairs : List (List Char × List Char)) : List Char :=
  entrySep.intercalate (pairs.map fun p => p.1 ++ fieldSep ++ p.2)

/-- The pair splitter that a caller gets for two separators. -/
def ofSeparators (entrySep fieldSep : String) : Except Fault PairSplitter := do
  let entries ← Splitter.on (.text entrySep)
  onSeparator entries (.text fieldSep)

/-- A separator that is not empty is accepted. -/
lemma on_text {sep : String} (h : sep ≠ "") :
    ∃ d, Splitter.on (.text sep) = .ok (.plain d) ∧ d.separator? = some sep.toList := by
  have hne : sep.toList ≠ [] := fun hnil => h (String.toList_eq_nil_iff.1 hnil)
  rw [Splitter.on]
  split_ifs with hone
  · -- a text of one character gives the delimiter at that character
    obtain ⟨c, hc⟩ := List.length_eq_one_iff.1 hone
    refine ⟨.char c, ?_, by rw [hc]; rfl⟩
    simp only [Delimiter.ofChar, Value.text?, hc]
    rfl
  · obtain ⟨c, rest, hc⟩ := List.exists_cons_of_ne_nil hne
    refine ⟨.literal sep.toList hne, ?_, rfl⟩
    simp only [Delimiter.ofLiteral, Value.text?, hc]
    rfl

/-- Two separators that are not empty give a pair splitter that cuts at them. -/
lemma ofSeparators_eq {entrySep fieldSep : String} (he : entrySep ≠ "") (hf : fieldSep ≠ "") :
    ∃ d f, ofSeparators entrySep fieldSep = .ok ⟨.plain d, .plain f⟩
      ∧ d.separator? = some entrySep.toList ∧ f.separator? = some fieldSep.toList := by
  obtain ⟨d, hd, hdsep⟩ := on_text he
  obtain ⟨f, hf', hfsep⟩ := on_text hf
  refine ⟨d, f, ?_, hdsep, hfsep⟩
  have hempty : fieldSep.isEmpty = false := by
    rw [Bool.eq_false_iff]
    exact fun hnil => hf (String.isEmpty_iff.1 hnil)
  simp only [ofSeparators, onSeparator, hd, hf', hempty]
  rfl

variable {entries : Splitter} {d : Delimiter} {sep : List Char}

/-- The fields of an entry under a splitter that only cuts: what lies before the first separator and
what lies behind it, if there is one. -/
lemma cells_of_locate (hd : d.separator? = some sep) (entry : List Char) :
    cells ⟨entries, .plain d⟩ entry
      = match d.locate entry 0 with
        | none => [entry]
        | some (a, b) => [entry.take a, entry.drop b] := by
  have hcuts := Delimiter.not_isPattern_of_separator? hd
  let s := (Splitter.plain d).limited fieldCount
  have hrec := s.tokensFrom_of_locate hcuts ⟨rfl, rfl⟩ entry (some 2) (by simp)
  refine hrec.trans ?_
  change (match d.locate entry 0 with | none => _ | some (a, b) => _) = _
  rcases d.locate entry 0 with _ | ⟨a, b⟩
  · rfl
  · simp only [Option.map_some]
    rw [s.tokensFrom_last hcuts ⟨rfl, rfl⟩]

/-- The fields of an entry, joined, are the entry. -/
lemma intercalate_cells (hd : d.separator? = some sep) (entry : List Char) :
    sep.intercalate (cells ⟨entries, .plain d⟩ entry) = entry := by
  rw [cells_of_locate hd]
  rcases hl : d.locate entry 0 with _ | ⟨a, b⟩
  · exact List.intercalate_singleton
  · obtain ⟨-, rfl, ⟨behind, hbehind⟩, -⟩ := (Delimiter.locate_eq_some_iff hd).1 hl
    change sep.intercalate [entry.take a, entry.drop (a + sep.length)] = entry
    rw [List.intercalate_cons_of_ne_nil (List.cons_ne_nil _ []), List.intercalate_singleton,
      ← List.drop_drop, ← hbehind, List.drop_left, List.append_assoc, hbehind,
      List.take_append_drop]

/-- A field that another one follows does not hold the separator. -/
lemma not_infix_of_cells (hd : d.separator? = some sep) {entry key value : List Char}
    (h : cells ⟨entries, .plain d⟩ entry = [key, value]) : ¬ sep <:+: key := by
  rw [cells_of_locate hd] at h
  rcases hl : d.locate entry 0 with _ | ⟨a, b⟩
  · rw [hl] at h
    exact absurd h (by simp)
  · rw [hl] at h
    obtain ⟨rfl, -⟩ := List.cons.inj h
    exact Delimiter.not_infix_take hd hl

/-- The fields of a key and a value with the separator between them, whatever the value holds. -/
lemma cells_append (hd : d.separator? = some sep) {key : List Char}
    (hkey : Delimiter.Closes sep key) (value : List Char) :
    cells ⟨entries, .plain d⟩ (key ++ sep ++ value) = [key, value] := by
  rw [cells_of_locate hd, Delimiter.locate_append hd hkey]
  change [_, _] = _
  rw [← List.length_append, List.drop_left, List.append_assoc, List.take_left]

variable {e f : Delimiter} {entrySep fieldSep : List Char}
  {pairs : List (List Char × List Char)}

/-- **Writing undoes reading.**  The pairs of a text, joined, are the text. -/
theorem joined_of_split (he : e.separator? = some entrySep) (hf : f.separator? = some fieldSep)
    {text : List Char} (h : split ⟨.plain e, .plain f⟩ text = .ok pairs) :
    joined entrySep fieldSep pairs = text := by
  have hp := (split_eq_ok_iff.1 h).fields
  have hjoin : (fun p : List Char × List Char => p.1 ++ fieldSep ++ p.2)
      = fieldSep.intercalate ∘ fun p => [p.1, p.2] := by
    funext p
    rw [Function.comp_apply, List.intercalate_cons_of_ne_nil (List.cons_ne_nil _ []),
      List.intercalate_singleton]
  have hcells : fieldSep.intercalate ∘ cells ⟨.plain e, .plain f⟩ = id := by
    funext entry
    exact intercalate_cells hf entry
  rw [joined, hjoin, ← List.map_map, ← hp, List.map_map, hcells, List.map_id]
  exact Splitter.intercalate_tokens he text

/-- No key holds the separator behind it. -/
theorem not_infix_of_split (hf : f.separator? = some fieldSep) {text : List Char}
    (h : split ⟨entries, .plain f⟩ text = .ok pairs) {p : List Char × List Char} (hp : p ∈ pairs) :
    ¬ fieldSep <:+: p.1 := by
  have hfields := (split_eq_ok_iff.1 h).fields
  have hmem : [p.1, p.2] ∈ pairs.map fun p => [p.1, p.2] :=
    List.mem_map_of_mem (f := fun p : List Char × List Char => [p.1, p.2]) hp
  rw [← hfields] at hmem
  obtain ⟨entry, -, hentry⟩ := List.mem_map.1 hmem
  exact not_infix_of_cells hf hentry

/-- **Reading undoes writing** if keys are distinct and the separators are seen at their places
first: every key closes the separator behind it, and every entry but the last one the separator
behind it, which the last one does not hold. -/
theorem split_joined_of_closes (he : e.separator? = some entrySep)
    (hf : f.separator? = some fieldSep) (hne : pairs ≠ []) (hnodup : (pairs.map Prod.fst).Nodup)
    (hkeys : ∀ p ∈ pairs, Delimiter.Closes fieldSep p.1)
    (hentries : ∀ p ∈ pairs, Delimiter.Closes entrySep (p.1 ++ fieldSep ++ p.2)
      ∧ ¬ entrySep <:+: p.1 ++ fieldSep ++ p.2) :
    split ⟨.plain e, .plain f⟩ (joined entrySep fieldSep pairs) = .ok pairs := by
  have hall : ∀ t ∈ pairs.map fun p => p.1 ++ fieldSep ++ p.2,
      Delimiter.Closes entrySep t ∧ ¬ entrySep <:+: t := by
    intro t ht
    obtain ⟨p, hp, rfl⟩ := List.mem_map.1 ht
    exact hentries p hp
  have htokens : (Splitter.plain e).tokens (joined entrySep fieldSep pairs)
      = pairs.map fun p => p.1 ++ fieldSep ++ p.2 :=
    Splitter.tokens_intercalate he (fun hnil => hne (List.map_eq_nil_iff.1 hnil))
      (fun t ht => (hall t (List.mem_of_mem_dropLast ht)).1)
      (fun t ht => (hall t (List.mem_of_getLast? ht)).2)
  refine split_eq_ok_iff.2 ⟨?_, hnodup⟩
  rw [htokens, List.map_map]
  exact List.map_congr_left fun p hp => cells_append hf (hkeys p hp) p.2

/-- **Pairs and their text.**  Two separators that are not empty give a pair splitter.

* If it finds pairs in a text, the text is these pairs, joined, and no key holds the separator of keys
  and values.
* If the separators are two different characters, then it finds the pairs in the text of any pairs, at
  least one, whose keys are distinct and hold neither character and whose values do not hold that of
  the entries. -/
theorem split_joined {entrySep fieldSep : String} (he : entrySep ≠ "") (hf : fieldSep ≠ "") :
    ∃ m, ofSeparators entrySep fieldSep = .ok m
      ∧ (∀ text pairs, m.split text = .ok pairs →
        joined entrySep.toList fieldSep.toList pairs = text
          ∧ ∀ p ∈ pairs, ¬ fieldSep.toList <:+: p.1)
      ∧ ∀ c d, entrySep.toList = [c] → fieldSep.toList = [d] → c ≠ d →
        ∀ pairs, pairs ≠ [] → (pairs.map Prod.fst).Nodup →
          (∀ p ∈ pairs, c ∉ p.1 ∧ d ∉ p.1 ∧ c ∉ p.2) →
          m.split (joined [c] [d] pairs) = .ok pairs := by
  obtain ⟨e, f, hm, hesep, hfsep⟩ := ofSeparators_eq he hf
  refine ⟨_, hm, fun text pairs h => ⟨joined_of_split hesep hfsep h,
    fun p hp => not_infix_of_split hfsep h hp⟩, ?_⟩
  intro c d hc hd hcd pairs hne hnodup hfree
  rw [hc] at hesep
  rw [hd] at hfsep
  refine split_joined_of_closes hesep hfsep hne hnodup
    (fun p hp => Delimiter.closes_singleton (hfree p hp).2.1) fun p hp => ?_
  have hmem : c ∉ p.1 ++ [d] ++ p.2 := by
    obtain ⟨hkey, -, hvalue⟩ := hfree p hp
    simp [hkey, hvalue, hcd]
  exact ⟨Delimiter.closes_singleton hmem, fun hin => hmem ((List.singleton_infix_iff c _).1 hin)⟩

/-- Keys and values may be empty, and a value may hold the separator of keys and values. -/
theorem split_joined_semicolon_equals :
    ∃ m, ofSeparators ";" "=" = .ok m
      ∧ m.split "a=1;b=x=y;=".toList
        = .ok [("a".toList, "1".toList), ("b".toList, "x=y".toList), ([], [])] := by
  obtain ⟨m, hm, -, hback⟩ := split_joined (show ";" ≠ "" by decide) (show "=" ≠ "" by decide)
  exact ⟨m, hm, hback ';' '=' rfl rfl (by decide)
    [("a".toList, "1".toList), ("b".toList, "x=y".toList), ([], [])]
    (by decide) (by decide) (by decide)⟩

end PairSplitter

end TextSplit
