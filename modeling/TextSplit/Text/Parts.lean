/-!
# Parts between separators

A text falls into parts at every occurrence of one character: one part more than there are
occurrences, and joined by that character they are the text again.

* `Parts.between` — the parts.
* `Parts.intercalate_between` — joining them gives the text back.
-/

namespace TextSplit.Parts

/-- The parts of a text between the occurrences of a character. -/
def between (sep : Char) : List Char → List (List Char)
  | [] => [[]]
  | c :: rest =>
    if c = sep then [] :: between sep rest
    else
      match between sep rest with
      | part :: others => (c :: part) :: others
      | [] => [[c]]

theorem between_ne_nil (sep : Char) (text : List Char) : between sep text ≠ [] := by
  cases text with
  | nil => simp [between]
  | cons c rest =>
    simp only [between]
    split
    · simp
    · split <;> simp

/-- Nothing is lost: the parts joined by the separator are the text. -/
theorem intercalate_between (sep : Char) (text : List Char) :
    List.intercalate [sep] (between sep text) = text := by
  induction text with
  | nil => simp [between, List.intercalate]
  | cons c rest ih =>
    simp only [between]
    obtain ⟨part, others, hb⟩ := List.exists_cons_of_ne_nil (between_ne_nil sep rest)
    rw [hb] at ih ⊢
    split
    · rename_i hc
      subst hc
      simpa [List.intercalate, List.intersperse] using ih
    · cases others with
      | nil => simpa [List.intercalate, List.intersperse] using ih
      | cons other more => simpa [List.intercalate, List.intersperse] using ih

end TextSplit.Parts
