import TextSplit.Text.Utf8

/-!
# Sheets

A sheet is a text of rows: a row is a line of fields between commas.  A field that begins with a
quote runs to the next quote that is not doubled, and may hold commas and line ends; a quote
anywhere else is text.  Lines of blanks are no rows.

* `Sheet.field?`, `Sheet.row?` — the first field or row of a text, and what stands behind it.
* `Sheet.length_row?_lt` — a row uses up at least one character.
* `Sheet.rows?` — the rows of a text, unless a quote is never closed.
* `Sheet.ofBytes?` — the text of a file, without the mark that may stand at its front.
-/

namespace TextSplit.Sheet

/-! ## Fields -/

/-- Whether a character ends a field that is not quoted. -/
def endsField (c : Char) : Bool := c == ',' || c == '\n' || c == '\r'

/-- The part of a text that belongs to an open field, and the rest. -/
def stretch (text : List Char) : List Char × List Char :=
  (text.takeWhile (!endsField ·), text.dropWhile (!endsField ·))

/-- A field whose quote has been opened.  What follows the closing quote still belongs to it. -/
def quoted? : List Char → Option (List Char × List Char)
  | [] => none
  | '"' :: '"' :: rest => (quoted? rest).map fun (held, behind) => ('"' :: held, behind)
  | '"' :: rest => some (stretch rest)
  | c :: rest => (quoted? rest).map fun (held, behind) => (c :: held, behind)

/-- The first field of a text. -/
def field? : List Char → Option (List Char × List Char)
  | '"' :: rest => quoted? rest
  | text => some (stretch text)

theorem length_dropWhile_le (p : Char → Bool) (text : List Char) :
    (text.dropWhile p).length ≤ text.length :=
  (List.dropWhile_sublist p).length_le

theorem length_stretch_le (text : List Char) : (stretch text).2.length ≤ text.length :=
  length_dropWhile_le _ text

theorem length_quoted?_le {text held behind : List Char} (h : quoted? text = some (held, behind)) :
    behind.length ≤ text.length := by
  fun_induction quoted? text generalizing held with
  | case1 => simp at h
  | case2 rest ih =>
    obtain ⟨⟨t, b⟩, hq, he⟩ := Option.map_eq_some_iff.1 h
    simp only [Prod.mk.injEq] at he
    have := ih (he.2 ▸ hq)
    simp only [List.length_cons]
    omega
  | case3 rest _ =>
    have hle := length_stretch_le rest
    simp only [Option.some.injEq] at h
    rw [h] at hle
    exact Nat.le_succ_of_le hle
  | case4 c rest _ _ ih =>
    obtain ⟨⟨t, b⟩, hq, he⟩ := Option.map_eq_some_iff.1 h
    simp only [Prod.mk.injEq] at he
    have := ih (he.2 ▸ hq)
    simp only [List.length_cons]
    omega

/-- A field uses up a part of the text. -/
theorem length_field?_le {text held behind : List Char} (h : field? text = some (held, behind)) :
    behind.length ≤ text.length := by
  unfold field? at h
  split at h
  · have := length_quoted?_le h
    simp only [List.length_cons]
    omega
  · have := length_stretch_le text
    simp only [Option.some.injEq] at h
    rwa [h] at this

/-! ## Rows -/

/-- What stands behind the line end that a text begins with. -/
def behindLineEnd? : List Char → Option (List Char)
  | '\r' :: '\n' :: rest => some rest
  | '\r' :: rest => some rest
  | '\n' :: rest => some rest
  | _ => none

theorem length_behindLineEnd?_lt {text behind : List Char} (h : behindLineEnd? text = some behind) :
    behind.length < text.length := by
  unfold behindLineEnd? at h
  split at h <;> simp only [Option.some.injEq, reduceCtorEq] at h <;> subst h <;>
    simp only [List.length_cons] <;> omega

/-- The first row of a text, and what stands behind its line end. -/
def row? (text : List Char) : Option (List (List Char) × List Char) :=
  match _h : field? text with
  | none => none
  | some (held, ',' :: rest) => (row? rest).map fun (fields, behind) => (held :: fields, behind)
  | some (held, rest) => some ([held], (behindLineEnd? rest).getD rest)
termination_by text.length
decreasing_by
  have := length_field?_le _h
  simp only [List.length_cons] at this
  omega

/-- An open field that uses up nothing stands in front of what ends it. -/
theorem endsField_of_length_stretch_eq {c : Char} {rest : List Char}
    (h : (stretch (c :: rest)).2.length = (c :: rest).length) : endsField c = true := by
  by_cases hc : endsField c = true
  · exact hc
  · have := length_dropWhile_le (fun c => !endsField c) rest
    simp [stretch, hc] at h
    omega

theorem length_row?_le {text behind : List Char} {fields : List (List Char)}
    (h : row? text = some (fields, behind)) : behind.length ≤ text.length := by
  fun_induction row? text generalizing fields with
  | case1 => simp at h
  | case2 text held rest hf ih =>
    obtain ⟨⟨f, b⟩, hr, he⟩ := Option.map_eq_some_iff.1 h
    simp only [Prod.mk.injEq] at he
    have := ih (he.2 ▸ hr)
    have := length_field?_le hf
    simp only [List.length_cons] at this
    omega
  | case3 text held rest _ hf =>
    have := length_field?_le hf
    simp only [Option.some.injEq, Prod.mk.injEq] at h
    obtain ⟨_, rfl⟩ := h
    cases he : behindLineEnd? rest with
    | none => simpa using this
    | some b =>
      have := length_behindLineEnd?_lt he
      simp only [Option.getD_some]
      omega

/-- A row uses up at least one character. -/
theorem length_row?_lt {text behind : List Char} {fields : List (List Char)} (hne : text ≠ [])
    (h : row? text = some (fields, behind)) : behind.length < text.length := by
  rw [row?] at h
  split at h
  · simp at h
  · rename_i held rest hf
    obtain ⟨⟨f, b⟩, hr, he⟩ := Option.map_eq_some_iff.1 h
    simp only [Prod.mk.injEq] at he
    have := length_row?_le (he.2 ▸ hr)
    have := length_field?_le hf
    simp only [List.length_cons] at this
    omega
  · rename_i held rest hcomma hf
    have hle := length_field?_le hf
    simp only [Option.some.injEq, Prod.mk.injEq] at h
    obtain ⟨_, rfl⟩ := h
    cases he : behindLineEnd? rest with
    | some b =>
      have := length_behindLineEnd?_lt he
      simp only [Option.getD_some]
      omega
    | none =>
      simp only [Option.getD_none]
      rcases Nat.lt_or_eq_of_le hle with hlt | heq
      · exact hlt
      · exfalso
        obtain ⟨c, tail, rfl⟩ := List.exists_cons_of_ne_nil hne
        unfold field? at hf
        split at hf
        · rename_i inner hinner
          have hle := length_quoted?_le hf
          rw [hinner, List.length_cons] at heq
          omega
        · simp only [Option.some.injEq] at hf
          have hlen : (stretch (c :: tail)).2.length = (c :: tail).length := by rw [hf]; exact heq
          have hc := endsField_of_length_stretch_eq hlen
          have hrest : rest = c :: tail := by
            have := congrArg Prod.snd hf
            simpa [stretch, hc] using this.symm
          subst hrest
          simp only [endsField, Bool.or_eq_true, beq_iff_eq] at hc
          rcases hc with (rfl | rfl) | rfl
          · exact hcomma tail rfl
          · simp [behindLineEnd?] at he
          · cases tail with
            | nil => simp [behindLineEnd?] at he
            | cons d more =>
              by_cases hd : d = '\n'
              · subst hd; simp [behindLineEnd?] at he
              · simp [behindLineEnd?, hd] at he

/-! ## The whole text -/

/-- Whether a character can stand on a line that is no row. -/
def isBlank (c : Char) : Bool := c == ' ' || c == '\t'

/-- The rows of a text; there are none if a quote is never closed. -/
def rows? (text : List Char) : Option (List (List (List Char))) :=
  if _hv : text.dropWhile isBlank = [] then some []
  else
    match _he : behindLineEnd? (text.dropWhile isBlank) with
    | some behind => rows? behind
    | none =>
      match _hr : row? text with
      | none => none
      | some (fields, behind) => (rows? behind).map (fields :: ·)
termination_by text.length
decreasing_by
  · have := length_behindLineEnd?_lt _he
    have := length_dropWhile_le isBlank text
    omega
  · exact length_row?_lt (fun ht => _hv (by rw [ht]; rfl)) _hr

/-- A field ends at the first null character in it. -/
def cell (field : List Char) : String := String.ofList (field.takeWhile (· != '\x00'))

/-- The mark that may stand in front of a text and does not belong to it. -/
def orderMark : Char := '\uFEFF'

/-- The text of some bytes without a fault, without the mark at its front. -/
def ofBytes? (bytes : List UInt8) : Option (List Char) :=
  match Utf8.decode? bytes with
  | some (c :: rest) => some (if c = orderMark then rest else c :: rest)
  | other => other

end TextSplit.Sheet
