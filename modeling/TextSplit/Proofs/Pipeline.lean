import TextSplit.Proofs.Tiling

/-!
# Trimming and dropping come after cutting

A splitter trims and drops while it scans, and keeps a state between one token and the next.  This
file shows that neither option reaches back into the scan: the tokens are those of the plain
splitter, each one stripped, without the empty ones.

* `span_inside` — the trimmed ends of a piece lie inside the text.
* `spanText_span`, `keeps_span` — what trimming and dropping do to one piece, said of its text.
* **`tokens_eq_filter_map_strip`** — the tokens of any splitter without a limit, from those of the
  plain one.
* **`tokens_trimming_droppingEmpty`** — the three ways of setting the two options.
-/

namespace TextSplit.Splitter

variable {s : Splitter} {text : List Char} {c : Cut}

/-- Trimming a piece that lies inside the text gives a span inside the text. -/
lemma span_inside (hord : c.start ≤ c.stop) (hin : c.stop ≤ text.length) :
    (s.span text c).1 ≤ (s.span text c).2 ∧ (s.span text c).2 ≤ text.length := by
  have h := le_trimSpan s.trimmer text hord
  exact ⟨h.2.1, Nat.le_trans h.2.2 hin⟩

/-- The text of a trimmed piece is the text of the piece, stripped. -/
lemma spanText_span (hord : c.start ≤ c.stop) (hin : c.stop ≤ text.length) :
    spanText text (s.span text c) = strip s.trimmer (spanText text c.piece) :=
  stretch_trimSpan s.trimmer hord hin

/-- A trimmed piece is kept unless empty texts are dropped and stripping has left nothing. -/
lemma keeps_span (hord : c.start ≤ c.stop) (hin : c.stop ≤ text.length) :
    s.keeps (s.span text c)
      = !(s.omitEmpty && (strip s.trimmer (spanText text c.piece)).isEmpty) := by
  have h : ((s.span text c).1 == (s.span text c).2)
      = (strip s.trimmer (spanText text c.piece)).isEmpty := by
    rw [Bool.eq_iff_iff, beq_iff_eq, List.isEmpty_iff]
    exact trimSpan_eq_iff s.trimmer hord hin
  rw [keeps, h]

variable [PatternSearch]

/-- Every kept span lies inside the text. -/
lemma spans_inside : ∀ a ∈ s.spans text, a.1 ≤ a.2 ∧ a.2 ≤ text.length := by
  intro a ha
  obtain ⟨c, hc, rfl⟩ := List.mem_map.1 (List.mem_filter.1 ha).1
  have h := Delimiter.cutsFrom_inside s.delimiter text c hc
  exact span_inside h.1 h.2

/-- **A pipeline.**  Without a limit, the tokens are those of the plain splitter, each one
stripped, and sifted if empty tokens are dropped.  Both sides run over the same pieces, so the two
agree piece by piece. -/
theorem tokens_eq_filter_map_strip (s : Splitter) (text : List Char) (hl : s.limit = none) :
    s.tokens text
      = (((plain s.delimiter).tokens text).map (strip s.trimmer)).filter
          fun token => !(s.omitEmpty && token.isEmpty) := by
  have hin := Delimiter.cutsFrom_inside s.delimiter text
  rw [tokens_of_limit_eq_none hl, tokens_plain, spans, spansFrom, Cut.pieces, List.map_map,
    List.map_map, List.filter_map, List.filter_map, List.map_map]
  have hfilter : (s.delimiter.cutsFrom text 0).filter (s.keeps ∘ s.span text)
      = (s.delimiter.cutsFrom text 0).filter
          ((fun token => !(s.omitEmpty && token.isEmpty))
            ∘ (strip s.trimmer ∘ spanText text ∘ Cut.piece)) :=
    List.filter_congr fun c hc => keeps_span (hin c hc).1 (hin c hc).2
  rw [hfilter]
  refine List.map_congr_left fun c hc => ?_
  have hc := hin c (List.mem_filter.1 hc).1
  exact spanText_span hc.1 hc.2

/-- **Trimming and dropping are a pure pipeline.**  Setting a trimmer strips every token of the
plain splitter of its longest runs of trimmed characters at both ends, in the same order; dropping
empty tokens, with or without a trimmer, takes the empty ones out of that list. -/
theorem tokens_trimming_droppingEmpty (d : Delimiter) (k : CharClass) (text : List Char) :
    ((plain d).trimming k).tokens text = ((plain d).tokens text).map k.strip
      ∧ ((plain d).trimming k).droppingEmpty.tokens text
        = (((plain d).tokens text).map k.strip).filter (fun token => !token.isEmpty)
      ∧ (plain d).droppingEmpty.tokens text
        = ((plain d).tokens text).filter (fun token => !token.isEmpty) := by
  refine ⟨?_, ?_, ?_⟩
  · rw [tokens_eq_filter_map_strip _ text rfl]
    exact List.filter_eq_self.2 fun _ _ => rfl
  · rw [tokens_eq_filter_map_strip _ text rfl]
    rfl
  · rw [tokens_eq_filter_map_strip _ text rfl]
    show (((plain d).tokens text).map id).filter _ = _
    rw [List.map_id]
    rfl

end TextSplit.Splitter
