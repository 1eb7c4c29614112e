import TextSplit.Proofs.Restart
import TextSplit.Splitter.Plain

/-!
# Chunks of one length

A chunk ends where its length says, and the boundary behind it takes up no character.  Whether another
chunk follows is decided by whether any text is left there, so that a text whose length is a multiple
of that of the chunks does not end in an empty one.  Only the empty text has an empty chunk.

* `Chunked` — what the chunks of a text are; `Chunked.single` and `Chunked.cons` follow the scan.
* `Chunked.length_eq` — how many there are.
* **`chunked_tokensFrom`** — the tokens are the chunks, by recursion on the text.
* **`tokensFrom_chunk_limited`** — under a limit, by induction on the limit.
* **`tokens_in_chunks`** — both, for the length that a caller gives.
-/

namespace TextSplit

/-- Chunks of a text: there is at least one, they are the text, every one but the last has the full
length, and the last one has no more than that, and is empty only if the text is. -/
structure Chunked (n : Nat) (text : List Char) (chunks : List (List Char)) : Prop where
  some_chunk : chunks ≠ []
  whole : chunks.flatten = text
  full : ∀ c ∈ chunks.dropLast, c.length = n
  last : ∀ c ∈ chunks.getLast?, c.length ≤ n ∧ (text ≠ [] → c ≠ [])

namespace Chunked

variable {n : Nat} {text : List Char} {chunks : List (List Char)}

/-- A text that is not too long is one chunk. -/
lemma single (h : text.length ≤ n) : Chunked n text [text] where
  some_chunk := List.cons_ne_nil _ _
  whole := List.flatten_singleton
  full c hc := absurd hc List.not_mem_nil
  last c hc := by
    rw [List.getLast?_singleton, Option.mem_some_iff] at hc
    subst hc
    exact ⟨h, id⟩

/-- A text that is too long begins with a chunk of full length.  Some text is left behind it, so the
last chunk of the rest is not empty. -/
lemma cons (hn : n < text.length) (h : Chunked n (text.drop n) chunks) :
    Chunked n text (text.take n :: chunks) where
  some_chunk := List.cons_ne_nil _ _
  whole := by rw [List.flatten_cons, h.whole, List.take_append_drop]
  full c hc := by
    rw [List.dropLast_cons_of_ne_nil h.some_chunk] at hc
    rcases List.mem_cons.1 hc with rfl | hc
    · exact List.length_take_of_le (Nat.le_of_lt hn)
    · exact h.full c hc
  last c hc := by
    obtain ⟨u, us, rfl⟩ := List.exists_cons_of_ne_nil h.some_chunk
    rw [List.getLast?_cons_cons] at hc
    have hrest : text.drop n ≠ [] := by
      rw [ne_eq, List.drop_eq_nil_iff]
      omega
    exact ⟨(h.last c hc).1, fun _ => (h.last c hc).2 hrest⟩

/-- All chunks but the last one have the same length, so the length of the text is known from that of
the last one. -/
lemma length_text (h : Chunked n text chunks) :
    ∃ c ∈ chunks.getLast?, text.length + n = chunks.length * n + c.length := by
  obtain ⟨front, c, rfl⟩ := (List.eq_nil_or_concat chunks).resolve_left h.some_chunk
  have hfull : front.map List.length = List.replicate front.length n := by
    refine List.eq_replicate_iff.2 ⟨List.length_map _, fun m hm => ?_⟩
    obtain ⟨d, hd, rfl⟩ := List.mem_map.1 hm
    refine h.full d ?_
    rw [List.concat_eq_append, List.dropLast_concat]
    exact hd
  refine ⟨c, by simp, ?_⟩
  rw [← h.whole, List.concat_eq_append, List.flatten_concat, List.length_append, List.length_flatten,
    hfull, List.sum_replicate_nat, List.length_append, List.length_singleton, Nat.add_mul]
  omega

/-- **How many chunks there are**: one for every full length begun, and at least one. -/
theorem length_eq (hn : 0 < n) (h : Chunked n text chunks) :
    chunks.length = max 1 ((text.length + n - 1) / n) := by
  obtain ⟨c, hc, hlen⟩ := h.length_text
  obtain ⟨hle, hne⟩ := h.last c hc
  have hpos := List.length_pos_of_ne_nil h.some_chunk
  by_cases htext : text = []
  · subst htext
    have hone : chunks.length * n ≤ 1 * n := by
      rw [List.length_nil] at hlen
      omega
    have hzero : ([] : List Char).length + n - 1 < n := by
      rw [List.length_nil]
      omega
    rw [Nat.div_eq_of_lt hzero]
    exact Nat.le_antisymm (Nat.le_of_mul_le_mul_right hone hn) hpos
  · have hc := List.length_pos_of_ne_nil (hne htext)
    have hdiv : (text.length + n - 1) / n = chunks.length := by
      refine Nat.div_eq_of_lt_le (by omega) ?_
      rw [Nat.add_mul]
      omega
    rw [hdiv, Nat.max_eq_right hpos]

end Chunked

namespace Splitter

section Search

variable [PatternSearch] {n : Nat} (positive : 0 < n)

/-- A chunk ends the text that is not too long, and is taken off the text that is. -/
lemma tokensFrom_chunk (text : List Char) (left : Option Nat) (hl : left ≠ some 1) :
    (plain (.chunk n positive)).tokensFrom text 0 left
      = if n < text.length then
          text.take n :: (plain (.chunk n positive)).tokensFrom (text.drop n) 0 (left.map (· - 1))
        else [text] := by
  have hd : ¬ (plain (.chunk n positive)).delimiter.IsPattern := not_false
  rw [tokensFrom_of_locate hd ⟨rfl, rfl⟩ text left hl,
    show (plain (.chunk n positive)).delimiter = .chunk n positive from rfl, Delimiter.locate,
    Nat.zero_add]
  split_ifs <;> rfl

/-- **The tokens are the chunks.**  The recursion takes off one chunk after another. -/
theorem chunked_tokensFrom (text : List Char) :
    Chunked n text ((plain (.chunk n positive)).tokensFrom text 0 none) := by
  rw [tokensFrom_chunk positive text none (by simp)]
  split_ifs with hlong
  · exact .cons hlong (chunked_tokensFrom (text.drop n))
  · exact .single (Nat.not_lt.1 hlong)
termination_by text.length
decreasing_by
  rw [List.length_drop]
  omega

/-- **Chunks under a limit.**  Every chunk that is taken off uses up one token and as much text as its
length; the last token is whatever text is left then.  The induction is on the limit, for all texts. -/
theorem tokensFrom_chunk_limited (k : Nat) (text : List Char) :
    let chunks := (plain (.chunk n positive)).tokensFrom text 0 none
    (plain (.chunk n positive)).tokensFrom text 0 (some (k + 1))
      = if chunks.length < k + 1 then chunks else chunks.take k ++ [text.drop (k * n)] := by
  induction k generalizing text with
  | zero =>
      have hsome := List.length_pos_of_ne_nil (chunked_tokensFrom positive text).some_chunk
      simp only
      rw [Nat.zero_add, if_neg (Nat.not_lt.2 hsome), Nat.zero_mul]
      exact tokensFrom_last (s := plain (.chunk n positive)) not_false ⟨rfl, rfl⟩ text
  | succ k ih =>
      have hstep := tokensFrom_chunk positive text (some (k + 1 + 1)) (by simp)
      have hall := tokensFrom_chunk positive text none (by simp)
      simp only
      by_cases hlong : n < text.length
      · rw [if_pos hlong] at hstep hall
        rw [hstep, hall, Option.map_some, Nat.add_sub_cancel, ih, List.length_cons]
        simp only [Nat.add_lt_add_iff_right, List.take_succ_cons, List.drop_drop, Option.map_none]
        split_ifs
        · rfl
        · rw [List.cons_append, Nat.succ_mul, Nat.add_comm n]
      · rw [if_neg hlong] at hstep hall
        rw [hstep, hall, if_pos (by simp)]

/-- **Text in chunks.**  Every positive length gives a splitter.  Whatever the text, its tokens are the
text in chunks: they are the text again, all but the last have the length, and the last one has at most
that length and at least one character, except that the empty text is one empty chunk.  So there are as
many as the length of the text divided by theirs, rounded up, and at least one.  A limit that is not
reached changes nothing; one that is reached leaves the chunks before the last token alone, and that
one holds the text behind them. -/
theorem tokens_in_chunks {n : Nat} (hn : 0 < n) :
    ∃ s, Splitter.fixedLength (.int n) = .ok s ∧ ∀ text,
      let chunks := s.tokens text
      chunks.flatten = text
        ∧ (∀ c ∈ chunks.dropLast, c.length = n)
        ∧ (∀ c ∈ chunks.getLast?, c.length ≤ n ∧ (text ≠ [] → 1 ≤ c.length))
        ∧ chunks.length = max 1 ((text.length + n - 1) / n)
        ∧ (text = [] → chunks = [[]])
        ∧ ∀ k : Limit,
          (chunks.length < k.1 → (s.limited k).tokens text = chunks)
            ∧ (k.1 ≤ chunks.length →
              (s.limited k).tokens text = chunks.take (k.1 - 1) ++ [text.drop ((k.1 - 1) * n)]) := by
  refine ⟨plain (.chunk n hn), ?_, fun text => ?_⟩
  · rw [Splitter.fixedLength, Delimiter.ofLength]
    simp only [Int.toNat_natCast, dif_pos hn]
    rfl
  · intro chunks
    have h : Chunked n text chunks := chunked_tokensFrom hn text
    refine ⟨h.whole, h.full, fun c hc => ⟨(h.last c hc).1, fun htext =>
      List.length_pos_of_ne_nil ((h.last c hc).2 htext)⟩, h.length_eq hn, ?_, fun k => ?_⟩
    · rintro rfl
      show (plain (.chunk n hn)).tokensFrom [] 0 none = [[]]
      rw [tokensFrom_chunk hn [] none (by simp), if_neg (by simp)]
    · obtain ⟨k, hk⟩ := k
      obtain ⟨m, rfl⟩ := Nat.exists_eq_add_one_of_ne_zero (Nat.ne_of_gt hk)
      have hlimited := tokensFrom_chunk_limited hn m text
      rw [← tokens_of_limited _ ⟨m + 1, hk⟩] at hlimited
      simp only [Nat.add_sub_cancel]
      refine ⟨fun hlt => hlimited.trans (if_pos hlt), fun hge => hlimited.trans (if_neg ?_)⟩
      exact Nat.not_lt.2 hge

end Search

/-- Six characters in threes are two chunks, and no empty third one follows.  At a limit of two the last
token is the second chunk. -/
theorem tokens_in_chunks_of_three :
    0 < 3 ∧ ∃ s, Splitter.fixedLength (.int 3) = .ok s
      ∧ (s.tokens "abcdef".toList).length = 2
      ∧ (s.limited ⟨2, by decide⟩).tokens "abcdef".toList
        = (s.tokens "abcdef".toList).take 1 ++ ["def".toList] := by
  refine ⟨by decide, ?_⟩
  obtain ⟨s, hs, hchunks⟩ := tokens_in_chunks (show 0 < 3 by decide)
  obtain ⟨-, -, -, hlen, -, hlimit⟩ := hchunks "abcdef".toList
  have htwo : (s.tokens "abcdef".toList).length = 2 := hlen
  exact ⟨s, hs, htwo, (hlimit ⟨2, by decide⟩).2 (Nat.le_of_eq htwo.symm)⟩

end Splitter

end TextSplit
