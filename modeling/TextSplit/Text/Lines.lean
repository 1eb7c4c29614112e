import TextSplit.Text.Parts

/-!
# Lines

Files end their lines in one of three ways.  A text that has been read from a file has only one of
them, a line feed.

* `Lines.unified` — the text with line feeds alone.
* `Lines.ofText` — the parts of a text between its line feeds.
-/

namespace TextSplit.Lines

/-- Ends every line with a line feed: a carriage return counts as one, and a line feed right behind
it belongs to it. -/
def unified : List Char → List Char
  | [] => []
  | '\r' :: '\n' :: rest => '\n' :: unified rest
  | '\r' :: rest => '\n' :: unified rest
  | c :: rest => c :: unified rest

/-- The parts of a text between its line feeds, one more than there are line feeds. -/
def ofText (text : List Char) : List (List Char) := Parts.between '\n' text

end TextSplit.Lines
