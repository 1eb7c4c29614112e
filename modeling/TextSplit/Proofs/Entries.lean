import TextSplit.PairSplitter.Plain
import Mathlib.Data.List.Nodup
import Mathlib.Data.Option.Basic
import Mathlib.Tactic.Lemma
import Mathlib.Tactic.SplitIfs

/-!
# Which texts are pairs

A pair splitter runs one splitter inside the loop of another, adds to what it has found, and gives up
in the middle for one of two reasons.  Whether it succeeds, what it finds and why it gives up are
stated here on the list of all entries, each cut into its fields, as if the text had been cut twice
before anything is looked at.

* `fieldLimit`, `cells` — the fields of an entry: two at most, or one if that is the limit set.
* `Paired` — entries and pairs correspond, and no key occurs twice.
* `Offends` — why an entry cannot follow others; `Offends.not_paired` and `Offends.unique` — it cannot,
  and for one reason only.
* `collect_cons` — what one entry can do to the loop.
* **`collect_eq_ok_iff`**, **`collect_eq_error_iff`** — what the loop finds, and where it gives up.
* `exists_paired_iff` — when entries have pairs at all.
* `split_eq_ok_iff`, **`split_eq_error_iff`** — the pairs of a text, and the first entry that offends.
* **`split_characterised`** — success, result and report of a pair splitter.
-/

namespace TextSplit.PairSplitter

/-! ## The fields of an entry -/

/-- The limit under which an entry is cut: one if that is the limit set, and two otherwise. -/
def fieldLimit : Option Limit → Limit
  | some ⟨1, h⟩ => ⟨1, h⟩
  | _ => fieldCount

/-- The fields of an entry. -/
def cells (m : PairSplitter) (entry : List Char) : List (List Char) :=
  (m.fields.limited (fieldLimit m.fields.limit)).tokens entry

/-- Limits of two or more, and no limit, come to the same. -/
lemma fieldLimit_of_two_le {n : Limit} (h : 2 ≤ n.1) : fieldLimit (some n) = fieldCount := by
  obtain ⟨n, hn⟩ := n
  match n, hn with
  | 1, _ => exact absurd h (show ¬ 2 ≤ 1 by decide)
  | n + 2, _ => rfl

/-- The splitter of an entry sets this limit. -/
lemma fieldSplitter_eq (m : PairSplitter) :
    m.fieldSplitter = m.fields.limited (fieldLimit m.fields.limit) := by
  rw [fieldSplitter]
  rcases hl : m.fields.limit with _ | ⟨n, hn⟩
  · rfl
  · simp only
    split_ifs with hle
    · -- a limit of one or two is kept as it is
      have hkeep : m.fields.limited ⟨n, hn⟩ = m.fields := by
        rw [Splitter.limited, ← hl]
      match n, hn, hle with
      | 1, hn, _ => exact hkeep.symm
      | 2, hn, _ => exact hkeep.symm
    · rw [fieldLimit_of_two_le]
      exact Nat.le_of_lt (Nat.not_le.1 hle)

variable {m : PairSplitter} {found pairs : List (List Char × List Char)}
  {earlier entries : List (List Char)} {entry : List Char} {fault : EntryFault}

/-! ## Entries and their pairs -/

/-- Entries and pairs correspond: in order, the fields of each entry are the key and the value of a
pair, and no key occurs twice. -/
structure Paired (m : PairSplitter) (entries : List (List Char))
    (pairs : List (List Char × List Char)) : Prop where
  fields : entries.map m.cells = pairs.map fun p => [p.1, p.2]
  distinct : (pairs.map Prod.fst).Nodup

/-- Why an entry cannot follow others: it does not have two fields, or one of them has its key. -/
inductive Offends (m : PairSplitter) (earlier : List (List Char)) (entry : List Char) :
    EntryFault → Prop
  | malformed (count : (m.cells entry).length ≠ 2) :
      Offends m earlier entry (.malformed entry (m.cells entry))
  | duplicate {key value : List Char} (fields : m.cells entry = [key, value])
      (taken : some key ∈ earlier.map fun other => (m.cells other).head?) :
      Offends m earlier entry (.duplicate key entry)

/-- No entries have no pairs. -/
lemma paired_nil : Paired m [] [] := ⟨rfl, List.nodup_nil⟩

/-- The entries determine the pairs. -/
lemma Paired.unique (h : Paired m entries found) (h' : Paired m entries pairs) : found = pairs := by
  have hinj : Function.Injective fun p : List Char × List Char => [p.1, p.2] := by
    rintro ⟨k, v⟩ ⟨k', v'⟩ heq
    simpa using heq
  exact List.map_injective_iff.2 hinj (h.fields.symm.trans h'.fields)

/-- The keys of the pairs are the first fields of the entries. -/
lemma heads_eq (h : entries.map m.cells = pairs.map fun p => [p.1, p.2]) :
    entries.map (fun entry => (m.cells entry).head?) = (pairs.map Prod.fst).map some := by
  have hheads := congrArg (List.map List.head?) h
  rw [List.map_map, List.map_map] at hheads
  rw [List.map_map]
  exact hheads

/-- Entries of two fields each have pairs, except that these may share keys. -/
lemma exists_fields_eq (h : ∀ entry ∈ entries, (m.cells entry).length = 2) :
    ∃ pairs : List (List Char × List Char), entries.map m.cells = pairs.map fun p => [p.1, p.2] := by
  induction entries with
  | nil => exact ⟨[], rfl⟩
  | cons entry rest ih =>
      obtain ⟨pairs, hpairs⟩ := ih fun other hother => h other (List.mem_cons_of_mem _ hother)
      obtain ⟨key, value, hfields⟩ := List.length_eq_two.1 (h entry List.mem_cons_self)
      refine ⟨(key, value) :: pairs, ?_⟩
      rw [List.map_cons, List.map_cons, hpairs, hfields]

/-- **Entries have pairs** exactly if each has two fields and no two have the same first field. -/
theorem exists_paired_iff :
    (∃ pairs, Paired m entries pairs)
      ↔ (∀ entry ∈ entries, (m.cells entry).length = 2)
        ∧ (entries.map fun entry => (m.cells entry).head?).Nodup := by
  constructor
  · rintro ⟨pairs, hp⟩
    refine ⟨fun entry hentry => ?_, ?_⟩
    · have hmem := List.mem_map_of_mem (f := m.cells) hentry
      rw [hp.fields] at hmem
      obtain ⟨p, -, heq⟩ := List.mem_map.1 hmem
      rw [← heq]
      rfl
    · rw [heads_eq hp.fields]
      exact hp.distinct.map (Option.some_injective _)
  · rintro ⟨htwo, hnodup⟩
    obtain ⟨pairs, hpairs⟩ := exists_fields_eq htwo
    rw [heads_eq hpairs] at hnodup
    exact ⟨pairs, hpairs, hnodup.of_map _⟩

/-- Nothing can follow an entry that cannot follow. -/
lemma Offends.not_paired (h : Offends m earlier entry fault) (rest : List (List Char)) :
    ¬ Paired m (earlier ++ entry :: rest) pairs := by
  intro hp
  cases h with
  | malformed count =>
      have hmem : m.cells entry ∈ pairs.map fun p => [p.1, p.2] := by
        rw [← hp.fields, List.map_append, List.map_cons]
        exact List.mem_append_right _ List.mem_cons_self
      obtain ⟨p, -, heq⟩ := List.mem_map.1 hmem
      rw [← heq] at count
      exact absurd rfl count
  | @duplicate key value fields taken =>
      have hnodup : ((pairs.map Prod.fst).map some).Nodup :=
        hp.distinct.map (Option.some_injective _)
      rw [← heads_eq hp.fields, List.map_append, List.map_cons, fields] at hnodup
      exact (List.nodup_append.1 hnodup).2.2 _ taken _ List.mem_cons_self rfl

/-- There is only one reason. -/
lemma Offends.unique {fault' : EntryFault} (h : Offends m earlier entry fault)
    (h' : Offends m earlier entry fault') : fault = fault' := by
  cases h with
  | malformed count =>
      cases h' with
      | malformed => rfl
      | duplicate fields => exact absurd (by rw [fields]; rfl) count
  | duplicate fields =>
      cases h' with
      | malformed count => exact absurd (by rw [fields]; rfl) count
      | duplicate fields' =>
          rw [fields, List.cons.injEq] at fields'
          rw [fields'.1]

/-! ## The loop -/

/-- The loop depends on the fields of the entries alone. -/
lemma collect_congr {m' : PairSplitter}
    (h : ∀ entry, m.fieldSplitter.tokens entry = m'.fieldSplitter.tokens entry)
    (found : List (List Char × List Char)) (entries : List (List Char)) :
    m.collect found entries = m'.collect found entries := by
  induction entries generalizing found with
  | nil => rfl
  | cons entry rest ih =>
      rw [collect, collect, h]
      simp only [ih]

/-- **What one entry can do.**  It adds a pair to those that correspond to the entries before it, or
it cannot follow these entries and ends the loop. -/
theorem collect_cons (h : Paired m earlier found) (entry : List Char) (rest : List (List Char)) :
    (∃ key value, Paired m (earlier ++ [entry]) (found ++ [(key, value)])
        ∧ m.collect found (entry :: rest) = m.collect (found ++ [(key, value)]) rest)
      ∨ ∃ fault, Offends m earlier entry fault
        ∧ m.collect found (entry :: rest) = .error fault := by
  have hcells : m.fieldSplitter.tokens entry = m.cells entry := by
    rw [fieldSplitter_eq, cells]
  rw [collect, hcells]
  match hfields : m.cells entry with
  | [] => exact Or.inr ⟨_, .malformed (by rw [hfields]; decide), by rw [hfields]⟩
  | [_] => exact Or.inr ⟨_, .malformed (by rw [hfields]; simp), by rw [hfields]⟩
  | [key, value] =>
      have htaken : (found.lookup key).isSome = true
          ↔ some key ∈ earlier.map fun other => (m.cells other).head? := by
        rw [heads_eq h.fields, List.lookup_isSome_iff, List.map_map, List.mem_map]
        refine exists_congr fun p => and_congr_right fun _ => ?_
        rw [beq_iff_eq, Function.comp_apply, Option.some.injEq, eq_comm]
      by_cases hkey : some key ∈ earlier.map fun other => (m.cells other).head?
      · exact Or.inr ⟨_, .duplicate hfields hkey, if_pos (htaken.2 hkey)⟩
      · refine Or.inl ⟨key, value, ⟨?_, ?_⟩, if_neg fun h => hkey (htaken.1 h)⟩
        · rw [List.map_append, List.map_append, h.fields, List.map_singleton, List.map_singleton,
            hfields]
        · rw [heads_eq h.fields, List.mem_map_of_injective (Option.some_injective _)] at hkey
          rw [List.map_append, List.map_singleton, ← List.concat_eq_append]
          exact h.distinct.concat hkey
  | _ :: _ :: _ :: _ => exact Or.inr ⟨_, .malformed (by rw [hfields]; simp), by rw [hfields]⟩

/-- **What the loop finds.**  It succeeds exactly with the pairs that correspond to the entries.  The
induction is on the entries, with those before them generalized. -/
theorem collect_eq_ok_iff (h : Paired m earlier found) :
    m.collect found entries = .ok pairs ↔ Paired m (earlier ++ entries) pairs := by
  induction entries generalizing earlier found with
  | nil =>
      rw [collect, Except.ok.injEq, List.append_nil]
      constructor
      · rintro rfl
        exact h
      · exact h.unique
  | cons entry rest ih =>
      rcases collect_cons h entry rest with ⟨key, value, hnext, hstep⟩ | ⟨fault, hoff, hstep⟩
      · rw [hstep, ih hnext, List.append_cons earlier entry rest]
      · rw [hstep]
        exact ⟨fun hok => absurd hok (by simp), fun hp => absurd hp (hoff.not_paired rest)⟩

/-- **Where the loop gives up**: at an entry that cannot follow the entries before it, while all of
these have pairs. -/
theorem collect_eq_error_iff (h : Paired m earlier found) :
    m.collect found entries = .error fault
      ↔ ∃ before entry behind, entries = before ++ entry :: behind
        ∧ (∃ pairs, Paired m (earlier ++ before) pairs)
        ∧ Offends m (earlier ++ before) entry fault := by
  induction entries generalizing earlier found with
  | nil =>
      rw [collect]
      refine ⟨fun hok => absurd hok (by simp), ?_⟩
      rintro ⟨before, entry, behind, hsplit, -, -⟩
      exact absurd hsplit (by simp)
  | cons entry rest ih =>
      rcases collect_cons h entry rest with ⟨key, value, hnext, hstep⟩ | ⟨fault', hoff, hstep⟩
      · rw [hstep, ih hnext]
        constructor
        · rintro ⟨before, entry', behind, rfl, hpairs, hoff⟩
          rw [← List.append_cons] at hpairs hoff
          exact ⟨entry :: before, entry', behind, rfl, hpairs, hoff⟩
        · rintro ⟨_ | ⟨first, before⟩, entry', behind, hsplit, hpairs, hoff⟩
          · rw [List.nil_append, List.cons.injEq] at hsplit
            rw [List.append_nil, ← hsplit.1] at hoff
            exact absurd hnext (hoff.not_paired [])
          · rw [List.cons_append, List.cons.injEq] at hsplit
            rw [← hsplit.1, List.append_cons] at hpairs hoff
            exact ⟨before, entry', behind, hsplit.2, hpairs, hoff⟩
      · rw [hstep, Except.error.injEq]
        constructor
        · rintro rfl
          refine ⟨[], entry, rest, rfl, ⟨found, ?_⟩, ?_⟩
          · rw [List.append_nil]
            exact h
          · rw [List.append_nil]
            exact hoff
        · rintro ⟨_ | ⟨first, before⟩, entry', behind, hsplit, ⟨pairs, hpairs⟩, hoff'⟩
          · rw [List.nil_append, List.cons.injEq] at hsplit
            rw [List.append_nil, ← hsplit.1] at hoff'
            exact hoff.unique hoff'
          · rw [List.cons_append, List.cons.injEq] at hsplit
            rw [← hsplit.1] at hpairs
            exact absurd hpairs (hoff.not_paired before)

/-! ## The whole splitter -/

/-- A list around one of its members. -/
lemma eq_take_append_cons_drop {i : Nat} (h : entries[i]? = some entry) :
    entries = entries.take i ++ entry :: entries.drop (i + 1) := by
  obtain ⟨hlt, hget⟩ := List.getElem?_eq_some_iff.1 h
  rw [← hget, ← List.drop_eq_getElem_cons hlt, List.take_append_drop]

/-- The first entries have pairs exactly if none of them offends. -/
lemma exists_paired_take_iff {i : Nat} :
    (∃ pairs, Paired m (entries.take i) pairs)
      ↔ ∀ j < i, ∀ entry, entries[j]? = some entry →
        ∀ fault, ¬ Offends m (entries.take j) entry fault := by
  have hshort : ∀ {j : Nat}, j < i → (entries.take i).take j = entries.take j := by
    intro j hj
    rw [List.take_take, Nat.min_eq_left (Nat.le_of_lt hj)]
  constructor
  · rintro ⟨pairs, hp⟩ j hj entry hentry fault hoff
    have hsame : (entries.take i)[j]? = some entry := by
      rw [List.getElem?_take_of_lt hj, hentry]
    rw [eq_take_append_cons_drop hsame, hshort hj] at hp
    exact hoff.not_paired _ hp
  · intro h
    rcases hc : m.collect [] (entries.take i) with fault | pairs
    · obtain ⟨before, entry, behind, hsplit, -, hoff⟩ := (collect_eq_error_iff paired_nil).1 hc
      have hj : before.length < i := by
        have hlen := congrArg List.length hsplit
        rw [List.length_take, List.length_append, List.length_cons] at hlen
        omega
      have hentry : entries[before.length]? = some entry := by
        rw [← List.getElem?_take_of_lt hj, hsplit]
        simp
      have htake : entries.take before.length = before := by
        rw [← hshort hj, hsplit, List.take_left]
      refine absurd hoff ?_
      rw [List.nil_append, ← htake]
      exact h before.length hj entry hentry fault
    · exact ⟨pairs, (collect_eq_ok_iff paired_nil).1 hc⟩

/-- A pair splitter succeeds with the pairs of all entries. -/
lemma split_eq_ok_iff {text : List Char} :
    m.split text = .ok pairs ↔ Paired m (m.entries.tokens text) pairs :=
  collect_eq_ok_iff paired_nil

/-- A limit of two or more is no limit. -/
lemma split_limited {n : Limit} (hn : 2 ≤ n.1) (entries fields : Splitter) (text : List Char) :
    (PairSplitter.mk entries (fields.limited n)).split text
      = (PairSplitter.mk entries { fields with limit := none }).split text := by
  refine collect_congr (fun entry => ?_) [] _
  rw [fieldSplitter_eq, fieldSplitter_eq]
  simp only [Splitter.limited, fieldLimit_of_two_le hn]
  rfl

/-- **Where a pair splitter fails**: at the first entry that offends. -/
theorem split_eq_error_iff {text : List Char} :
    m.split text = .error fault
      ↔ ∃ i, (∃ entry, (m.entries.tokens text)[i]? = some entry
          ∧ Offends m ((m.entries.tokens text).take i) entry fault)
        ∧ ∀ j < i, ∀ entry, (m.entries.tokens text)[j]? = some entry →
          ∀ other, ¬ Offends m ((m.entries.tokens text).take j) entry other := by
  rw [split, collect_eq_error_iff paired_nil]
  generalize m.entries.tokens text = entries
  constructor
  · rintro ⟨before, entry, behind, rfl, hpairs, hoff⟩
    have htake : (before ++ entry :: behind).take before.length = before := List.take_left
    rw [List.nil_append] at hpairs hoff
    rw [← htake] at hpairs
    refine ⟨before.length, ⟨entry, by simp, ?_⟩, exists_paired_take_iff.1 hpairs⟩
    rw [htake]
    exact hoff
  · rintro ⟨i, ⟨entry, hentry, hoff⟩, hleast⟩
    exact ⟨entries.take i, entry, entries.drop (i + 1), eq_take_append_cons_drop hentry,
      exists_paired_take_iff.2 hleast, hoff⟩

/-- For a text, a caller gets the pairs or the report on the fault. -/
lemma splitValue_text (m : PairSplitter) (text : List Char) :
    m.splitValue (.text (String.ofList text))
      = match m.split text with
        | .ok pairs => .ok pairs
        | .error fault => Fault.refuse (cause fault) := by
  have htext : (Value.text (String.ofList text)).contents = text := by
    rw [Value.contents, Value.shown, String.toList_ofList]
    rintro s ⟨⟩
  rcases hsplit : m.split text with fault | pairs <;> simp only [splitValue, htext, hsplit]

/-- **What a pair splitter does.**  Cut the text into entries, and each entry into its fields, two at
most unless the limit of the fields is one.

* The limit of the fields makes no other difference.
* There are pairs exactly if every entry has two fields and no two entries have the same first one;
  the pairs are the fields of the entries, in their order.
* Otherwise the fault is that of the first entry that cannot follow those before it: its fields are
  not two, and the fault holds the entry and them; or one of those before it has its key, and the
  fault holds the key and the entry.
* A caller gets the pairs, or a report with what the fault holds. -/
theorem split_characterised (m : PairSplitter) (text : List Char) :
    let entries := m.entries.tokens text
    let offends := fun i fault =>
      ∃ entry, entries[i]? = some entry ∧ Offends m (entries.take i) entry fault
    (∀ n : Limit, 2 ≤ n.1 →
        (PairSplitter.mk m.entries (m.fields.limited n)).split text
          = (PairSplitter.mk m.entries { m.fields with limit := none }).split text)
      ∧ ((∃ pairs, m.split text = .ok pairs)
        ↔ (∀ entry ∈ entries, (m.cells entry).length = 2)
          ∧ (entries.map fun entry => (m.cells entry).head?).Nodup)
      ∧ (∀ pairs, m.split text = .ok pairs →
        entries.map m.cells = pairs.map fun p => [p.1, p.2])
      ∧ (∀ fault, m.split text = .error fault
        ↔ ∃ i, offends i fault ∧ ∀ j < i, ∀ other, ¬ offends j other)
      ∧ m.splitValue (.text (String.ofList text))
        = match m.split text with
          | .ok pairs => .ok pairs
          | .error fault => Fault.refuse (cause fault) := by
  intro entries offends
  refine ⟨fun n hn => split_limited hn _ _ text, ?_, fun pairs hp => (split_eq_ok_iff.1 hp).fields,
    fun fault => ?_, m.splitValue_text text⟩
  · rw [← exists_paired_iff]
    exact exists_congr fun pairs => split_eq_ok_iff
  · rw [split_eq_error_iff]
    refine exists_congr fun i => and_congr_right fun _ => ?_
    constructor
    · rintro hleast j hj other ⟨entry, hentry, hoff⟩
      exact hleast j hj entry hentry other hoff
    · intro hleast j hj entry hentry other hoff
      exact hleast j hj other ⟨entry, hentry, hoff⟩

end TextSplit.PairSplitter
