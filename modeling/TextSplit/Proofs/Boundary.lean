import TextSplit.Proofs.Stretch

/-!
# What a boundary is

`Delimiter.locate` answers with two places.  For a character, a text or a class the stretch
between them is what the delimiter says it is, and it is never empty; a chunk ends further on than
it starts.  Only a pattern can match nothing at the place where the search begins, and only a
pattern can look at what lies behind its match.

* `Delimiter.IsPattern` — the kind that is found by a search of its own.
* `Delimiter.Local` — a test of tails that reads no further than a fixed width; `seek_append` is
  what follows for the first tail that passes it.
* `stretch_of_locate_char`, `stretch_of_locate_literal` — the text of a boundary.
* **`isPattern_of_locate_self`** — an empty boundary where the search begins is a pattern's;
  `lt_length_of_locate` — so is one at the end of the text.
* **`locate_grow`**, **`cut_grow`** — a boundary that has been found stays the next one when the
  text grows, and so does the piece that it ends.
* **`locate_take`** — the piece itself holds no boundary.
-/

namespace TextSplit.Delimiter

/-- The delimiter is a pattern. -/
def IsPattern : Delimiter → Prop
  | .pattern _ _ => True
  | _ => False

variable {text : List Char} {start s e : Nat}

/-! ## Local tests -/

/-- A test of tails reads no further than a width: it fails on what is shorter, and what follows
the width makes no difference. -/
structure Local (width : Nat) (here : List Char → Bool) : Prop where
  le_length : ∀ {rest}, here rest = true → width ≤ rest.length
  append : ∀ {rest} (more : List Char), width ≤ rest.length → here (rest ++ more) = here rest

lemma local_char (c : Char) : Local 1 fun rest => rest.head? == some c where
  le_length {rest} h := by
    cases rest with
    | nil => simp at h
    | cons b rest => simp
  append {rest} more h := by
    cases rest with
    | nil => simp at h
    | cons b rest => rfl

lemma local_charClass (k : CharClass) : Local 1 fun rest => rest.head?.any k.accepts where
  le_length {rest} h := by
    cases rest with
    | nil => simp at h
    | cons b rest => simp
  append {rest} more h := by
    cases rest with
    | nil => simp at h
    | cons b rest => rfl

lemma local_literal (sep : List Char) : Local sep.length (sep.isPrefixOf ·) where
  le_length h := (List.isPrefixOf_iff_prefix.1 h).length_le
  append {rest} more h := by
    rw [Bool.eq_iff_iff, List.isPrefixOf_iff_prefix, List.isPrefixOf_iff_prefix]
    constructor
    · intro hp
      exact List.prefix_of_prefix_length_le hp (List.prefix_append rest more) h
    · intro hp
      exact hp.trans (List.prefix_append rest more)

/-- The first tail that passes a local test stays the first when the text grows.  The tails before
it are longer, so the test did not reach the end of the text on any of them. -/
lemma seek_append {here : List Char → Bool} {width : Nat} (hl : Local width here)
    {rest : List Char} {pos : Nat} (more : List Char) (h : seek here rest pos = some s) :
    seek here (rest ++ more) pos = some s := by
  induction rest generalizing pos with
  | nil =>
      simp only [seek, Option.ite_none_right_eq_some, Option.some.injEq] at h
      obtain ⟨hnil, rfl⟩ := h
      have hmore : here more = true := by
        rw [← hnil]
        exact hl.append more (hl.le_length hnil)
      cases more with
      | nil => simp only [List.append_nil, seek, hnil, if_true]
      | cons b more => simp only [List.nil_append, seek, hmore, if_true]
  | cons c rest ih =>
      obtain ⟨-, -, hfound⟩ := seek_spec h
      have hwide : width ≤ (c :: rest).length := by
        have := hl.le_length hfound
        rw [List.length_drop] at this
        omega
      have hsame := hl.append more hwide
      rw [List.cons_append] at hsame ⊢
      rw [seek] at h ⊢
      rw [hsame]
      split_ifs at h ⊢ with hc
      · exact h
      · exact ih h

lemma seek_drop_append {here : List Char → Bool} {width : Nat} (hl : Local width here)
    (more : List Char) (hs : start ≤ text.length)
    (h : seek here (text.drop start) start = some s) :
    seek here ((text ++ more).drop start) start = some s := by
  rw [List.drop_append_of_le_length hs]
  exact seek_append hl more h

variable [PatternSearch]

/-! ## The text of a boundary -/

/-- A boundary at a character is that character. -/
lemma stretch_of_locate_char {c : Char} (h : (Delimiter.char c).locate text start = some (s, e)) :
    stretch text s e = [c] := by
  simp only [locate, Option.map_eq_some_iff, Prod.mk.injEq] at h
  obtain ⟨s', h, rfl, rfl⟩ := h
  obtain ⟨-, -, hc⟩ := seek_drop_spec h (by simp)
  cases hd : text.drop s' with
  | nil => simp [hd] at hc
  | cons b rest =>
      have hb : b = c := by simpa [hd] using hc
      rw [stretch, hd, hb, show s' + 1 - s' = 1 by omega, List.take_succ_cons, List.take_zero]

/-- A boundary at a separator is that separator. -/
lemma stretch_of_locate_literal {sep : List Char} {hasChar : sep ≠ []}
    (h : (Delimiter.literal sep hasChar).locate text start = some (s, e)) :
    stretch text s e = sep := by
  simp only [locate, Option.map_eq_some_iff, Prod.mk.injEq] at h
  obtain ⟨s', h, rfl, rfl⟩ := h
  obtain ⟨-, -, hp⟩ := seek_drop_spec h (by cases sep <;> simp_all)
  have hpre : sep <+: text.drop s' := List.isPrefixOf_iff_prefix.1 hp
  rw [stretch, Nat.add_sub_cancel_left]
  exact (List.prefix_iff_eq_take.1 hpre).symm

/-- **Only patterns match nothing.**  A boundary that is empty and lies where the search begins is
the match of a pattern. -/
theorem isPattern_of_locate_self {d : Delimiter} (h : d.locate text start = some (start, start)) :
    d.IsPattern := by
  cases d with
  | char c =>
      simp only [locate, Option.map_eq_some_iff, Prod.mk.injEq] at h
      obtain ⟨s', -, h1, h2⟩ := h
      omega
  | literal sep hasChar =>
      simp only [locate, Option.map_eq_some_iff, Prod.mk.injEq] at h
      obtain ⟨s', -, h1, h2⟩ := h
      have := List.length_pos_of_ne_nil hasChar
      omega
  | pattern p cuts => exact trivial
  | chunk length positive =>
      simp only [locate, Option.ite_none_right_eq_some, Option.some.injEq, Prod.mk.injEq] at h
      omega
  | charClass k =>
      simp only [locate, Option.map_eq_some_iff, Prod.mk.injEq] at h
      obtain ⟨s', -, h1, h2⟩ := h
      omega

/-- A boundary that is no match of a pattern starts before the end of the text. -/
lemma lt_length_of_locate {d : Delimiter} (hd : ¬ d.IsPattern)
    (h : d.locate text start = some (s, e)) : s < text.length := by
  have hle := le_of_locate h
  cases d with
  | literal sep hasChar =>
      simp only [locate, Option.map_eq_some_iff, Prod.mk.injEq] at h
      obtain ⟨s', -, rfl, rfl⟩ := h
      have := List.length_pos_of_ne_nil hasChar
      omega
  | pattern p cuts => exact absurd trivial hd
  | chunk length positive =>
      simp only [locate, Option.ite_none_right_eq_some, Option.some.injEq, Prod.mk.injEq] at h
      omega
  | _ =>
      -- a single character takes up a place of its own
      simp only [locate, Option.map_eq_some_iff, Prod.mk.injEq] at h
      obtain ⟨s', -, rfl, rfl⟩ := h
      omega

/-- Unless the delimiter is a pattern, a piece is simply ended by the next boundary. -/
lemma cut_of_not_isPattern {d : Delimiter} (hd : ¬ d.IsPattern) (text : List Char)
    (start : Nat) :
    d.cut text start
      = match d.locate text start with
        | none => some ⟨start, text.length, none⟩
        | some (s, e) => some ⟨start, s, some e⟩ := by
  rw [cut]
  rcases hl : d.locate text start with _ | ⟨s, e⟩
  · rfl
  · have hle := le_of_locate hl
    have he : e ≠ start := by
      intro he
      have hs : s = start := by omega
      rw [he, hs] at hl
      exact hd (isPattern_of_locate_self hl)
    simp only [if_neg he]

/-! ## Growing texts -/

/-- **A boundary stays.**  Unless the delimiter is a pattern, a boundary that has been found in a
text is the next one in every longer text too. -/
theorem locate_grow {d : Delimiter} (hd : ¬ d.IsPattern) (more : List Char)
    (h : d.locate text start = some (s, e)) : d.locate (text ++ more) start = some (s, e) := by
  have hle := le_of_locate h
  have hs : start ≤ text.length := by omega
  cases d with
  | char c =>
      simp only [locate, Option.map_eq_some_iff] at h ⊢
      exact h.imp fun _ h => ⟨seek_drop_append (local_char c) more hs h.1, h.2⟩
  | literal sep hasChar =>
      simp only [locate, Option.map_eq_some_iff] at h ⊢
      exact h.imp fun _ h => ⟨seek_drop_append (local_literal sep) more hs h.1, h.2⟩
  | pattern p cuts => exact absurd trivial hd
  | chunk length positive =>
      simp only [locate, Option.ite_none_right_eq_some, List.length_append] at h ⊢
      exact ⟨by omega, h.2⟩
  | charClass k =>
      simp only [locate, Option.map_eq_some_iff] at h ⊢
      exact h.imp fun _ h => ⟨seek_drop_append (local_charClass k) more hs h.1, h.2⟩

/-- **A piece stays.**  Unless the delimiter is a pattern, a piece that a boundary ends is the same
piece of every longer text. -/
theorem cut_grow {d : Delimiter} (hd : ¬ d.IsPattern) (more : List Char) {c : Cut} {n : Nat}
    (h : d.cut text start = some c) (hn : c.next = some n) :
    d.cut (text ++ more) start = some c ∧ c.start ≤ c.stop ∧ c.stop ≤ text.length := by
  rw [cut_of_not_isPattern hd] at h ⊢
  rcases hl : d.locate text start with _ | ⟨s, e⟩
  · rw [hl] at h
    simp only [Option.some.injEq] at h
    subst h
    exact absurd hn (by simp)
  · rw [hl] at h
    simp only [Option.some.injEq] at h
    subst h
    have hle := le_of_locate hl
    rw [locate_grow hd more hl]
    exact ⟨rfl, hle.1, Nat.le_trans hle.2.1 hle.2.2⟩

/-- **Pieces hold no boundary.**  Unless the delimiter is a pattern, the text before its first boundary
has none. -/
theorem locate_take {d : Delimiter} (hd : ¬ d.IsPattern) (h : d.locate text 0 = some (s, e)) :
    d.locate (text.take s) 0 = none := by
  rcases hin : d.locate (text.take s) 0 with _ | ⟨s', e'⟩
  · rfl
  · -- it would be the first boundary of the whole text, and lie before itself
    have hlt := lt_length_of_locate hd hin
    have hgrow := locate_grow hd (text.drop s) hin
    rw [List.take_append_drop, h] at hgrow
    obtain ⟨rfl, rfl⟩ := Prod.mk.inj (Option.some.inj hgrow)
    rw [List.length_take] at hlt
    omega

end TextSplit.Delimiter
