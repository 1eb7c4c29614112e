import TextSplit.Tokens

/-!
# Cursors

A cursor hands out the tokens of a text one at a time.  The text is given anew on every call, so
it may have grown in the meantime; what the cursor keeps is only where it stands.

* `Cursor` — the place of the next pull, the tokens still allowed, and a token held ready.
* `Cursor.hasNext` — looks for a token without handing it out.
* `Cursor.next` — hands out a token.
* `Cursor.drain` — hands out all that are left.
-/

namespace TextSplit

/-- What a cursor knows about its next token. -/
inductive Phase where
  /-- It has not looked. -/
  | idle
  /-- It has found the token and holds it. -/
  | ready (token : List Char)
  /-- There is none, and there will be none. -/
  | done
  deriving DecidableEq, Repr, Inhabited

/-- A reader of the tokens of one text. -/
structure Cursor where
  splitter : Splitter
  /-- Where the next pull starts; nothing once the last token has been cut. -/
  offset : Option Nat
  /-- How many tokens may still be cut. -/
  left : Option Nat
  phase : Phase

namespace Cursor

/-- The cursor before the first token. -/
def start (s : Splitter) : Cursor := ⟨s, some 0, s.limit.map Subtype.val, .idle⟩

instance : Inhabited Cursor := ⟨start default⟩

/-- Pulls a token from where the cursor stands. -/
def look [PatternSearch] (c : Cursor) (text : List Char) : Cursor :=
  match c.offset.bind fun start => c.splitter.pull text start c.left with
  | none => { c with offset := none, phase := .done }
  | some p => { c with offset := p.next, left := p.left, phase := .ready p.token }

/-- Looks for a token unless one is held already or none is left. -/
def settle [PatternSearch] (c : Cursor) (text : List Char) : Cursor :=
  match c.phase with
  | .idle => c.look text
  | _ => c

/-- Whether there is a token still to hand out, and the cursor after looking. -/
def hasNext [PatternSearch] (c : Cursor) (text : List Char) : Bool × Cursor :=
  let c := c.settle text
  match c.phase with
  | .ready _ => (true, c)
  | _ => (false, c)

/-- The next token, and the cursor after handing it out. -/
def next [PatternSearch] (c : Cursor) (text : List Char) : Option (List Char) × Cursor :=
  let c := c.settle text
  match c.phase with
  | .ready token => (some token, { c with phase := .idle })
  | _ => (none, c)

/-- The tokens still to hand out: the one held, and those from the offset on. -/
def remaining [PatternSearch] (c : Cursor) (text : List Char) : List (List Char) :=
  let ahead := match c.offset with
    | some start => c.splitter.tokensFrom text start c.left
    | none => []
  match c.phase with
  | .idle => ahead
  | .ready token => token :: ahead
  | .done => []

/-- Hands out all tokens.  Each one cut on the way uses up one that was allowed, save the last. -/
def drain [PatternSearch] (c : Cursor) (text : List Char) : List (List Char) × Cursor :=
  let tokens := c.remaining text
  let cut := match c.phase with
    | .idle => tokens.length
    | .ready _ => tokens.length - 1
    | .done => 0
  (tokens, { c with offset := none, left := c.left.map fun n => max 1 (n - cut), phase := .done })

end Cursor

end TextSplit
