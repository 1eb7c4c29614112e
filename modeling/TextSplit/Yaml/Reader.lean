import TextSplit.Yaml.Meaning

/-!
# Reading a settings file

* `Yaml.isAllowed` — the characters that a settings file may hold.
* `Yaml.read` — the value that a text spells; a text without a document spells nothing.
-/

namespace TextSplit.Yaml

/-- A character that a settings file may hold: one that prints, or one of the usual controls. -/
def isAllowed (c : Char) : Bool :=
  let n := c.toNat
  c == '\t' || c == '\n' || c == '\r' || (0x20 ≤ n && n ≤ 0x7E) || n == 0x85
    || (0xA0 ≤ n && n ≤ 0xD7FF) || (0xE000 ≤ n && n ≤ 0xFFFD) || 0x10000 ≤ n

/-- The value that a text spells. -/
def read [Machine] (text : List Char) : Except Fault Value := do
  if !text.all isAllowed then refuse
  else
    let tokens ← Token.ofText text
    match ← Node.ofTokens tokens with
    | some n => n.value
    | none => return .null

end TextSplit.Yaml
