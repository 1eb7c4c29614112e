import TextSplit.Splitter
import TextSplit.Trim

/-!
# Tokens

Tokens are the pieces of a text after trimming, without those that a splitter drops, up to its
limit.  One token is pulled at a time: a pull starts at a place, skips the pieces that are dropped,
and says where the next pull has to start.

* `Splitter.pull` — the next token from a place on.
* `Splitter.tokensFrom`, `Splitter.tokens` — all of them.
* `Splitter.listing` — the tokens as a bracketed list.
-/

namespace TextSplit

/-- A token, the place where the next pull starts, and the number of tokens still allowed. -/
structure Pull where
  token : List Char
  next : Option Nat
  left : Option Nat
  deriving DecidableEq, Repr, Inhabited

namespace Splitter

/-- The next token from a place on.  The last token that the limit allows runs to the end of the
text, and only its right end is trimmed anew. -/
def pull [PatternSearch] (s : Splitter) (text : List Char) (start : Nat) (left : Option Nat) :
    Option Pull :=
  match _h : s.delimiter.cut text start with
  | none => none
  | some c =>
    let (first, last) := trimSpan s.trimmer text c.start c.stop
    if s.omitEmpty && first == last then
      match _hn : c.next with
      | none => none
      | some n => pull s text n left
    else if left = some 1 then
      let last := trimSpanEnd s.trimmer text first text.length
      some ⟨stretch text first last, none, left⟩
    else
      some ⟨stretch text first last, c.next, left.map (· - 1)⟩
termination_by text.length - start
decreasing_by
  have := Delimiter.cut_next _h _hn
  omega

/-- **Progress.**  After a pull the next one starts further right, inside the text. -/
theorem pull_next [PatternSearch] {s : Splitter} {text : List Char} {start n : Nat}
    {left : Option Nat} {p : Pull} (h : s.pull text start left = some p)
    (hn : p.next = some n) : start < n ∧ n ≤ text.length := by
  fun_induction s.pull text start left with
  | case1 => simp at h
  | case2 => simp at h
  | case3 start c hc first last _ _ m hm ih =>
    have := ih h
    have := Delimiter.cut_next hc hm
    omega
  | case4 =>
    simp only [Option.some.injEq] at h
    subst h
    simp at hn
  | case5 start c hc =>
    simp only [Option.some.injEq] at h
    subst h
    exact Delimiter.cut_next hc hn

/-- The tokens from a place on. -/
def tokensFrom [PatternSearch] (s : Splitter) (text : List Char) (start : Nat)
    (left : Option Nat) : List (List Char) :=
  match _h : s.pull text start left with
  | none => []
  | some p =>
    match _hn : p.next with
    | none => [p.token]
    | some n => p.token :: tokensFrom s text n p.left
termination_by text.length - start
decreasing_by
  have := pull_next _h _hn
  omega

/-- The tokens of a text. -/
def tokens [PatternSearch] (s : Splitter) (text : List Char) : List (List Char) :=
  s.tokensFrom text 0 (s.limit.map Subtype.val)

/-- The tokens of a text in brackets, with commas between them. -/
def listing [PatternSearch] (s : Splitter) (text : List Char) : List Char :=
  '[' :: List.intercalate [',', ' '] (s.tokens text) ++ [']']

end Splitter

end TextSplit
