import TextSplit.Delimiter.Plain
import TextSplit.Tokens

/-!
# Splitters as plain data

A splitter is written down as the mapping of its delimiter with up to three options added.  Every
option is checked when it is set, whether a caller sets it or a mapping does.

* `Splitter.on`, `onPattern`, `fixedLength` — a splitter from what a caller hands in.
* `Splitter.trimmingArgument`, `limitedTo` — options from what a caller hands in.
* `Splitter.toPlain`, `Splitter.ofPlain` — the written form and its reader.
* `Splitter.split` — the tokens of any value that reads as a text; `change` refuses to alter them.
-/

namespace TextSplit

namespace Splitter

/-! ## From what a caller hands in -/

/-- The splitter at a text, at a pattern, or at a class of characters. -/
def on (separator : Value) : Except Fault Splitter :=
  match separator with
  | .null => Fault.refuse .separatorNull
  | .text s => plain <$> if s.length = 1 then Delimiter.ofChar separator
      else Delimiter.ofLiteral separator
  | .thing (.pattern p) => plain <$> Delimiter.ofCompiled p
  | .thing (.charClass k) => .ok (plain (.charClass k))
  | other => Fault.refuse (.separatorUnusable other)

/-- The splitter at the matches of a pattern that is read first. -/
def onPattern [PatternReader] (source flags : Value) : Except Fault Splitter :=
  match source with
  | .null => Fault.refuse .patternNull
  | source => plain <$> Delimiter.compiled source flags

/-- The splitter into chunks of one length. -/
def fixedLength (length : Value) : Except Fault Splitter :=
  plain <$> Delimiter.ofLength length

/-- Trims the class that a caller means; the blanks are meant when nothing is said. -/
def trimmingArgument (s : Splitter) (given : Value) : Except Fault Splitter :=
  match given with
  | .null => .ok (s.trimming .blanks)
  | given => s.trimming <$> CharClass.ofArgument given

/-- The limit that a value stands for, which is a positive integer. -/
def limitOf (given : Value) : Except Fault Limit :=
  match given with
  | .int n =>
    if positive : 0 < n.toNat then .ok ⟨n.toNat, positive⟩
    else Fault.refuse (.limitNotPositive given)
  | other => Fault.refuse (.limitNotPositive other)

/-- Stops after a number of tokens. -/
def limitedTo (s : Splitter) (given : Value) : Except Fault Splitter :=
  s.limited <$> limitOf given

/-! ## The written form -/

/-- The fields of the written form that are options, not part of the delimiter. -/
def optionNames : List String := ["trim", "omit_empty", "limit"]

/-- The written form of a trimmer.  Trimming blanks is the usual case and has a short form. -/
def trimToPlain (k : CharClass) : Except Fault Value :=
  if k == .blanks then .ok (.bool true) else .dict <$> k.toPlain

/-- The written form of the trimmer option, with its name. -/
def trimEntries : Option CharClass → Except Fault (List (Value × Value))
  | none => .ok []
  | some k =>
    match trimToPlain k with
    | .ok v => .ok [(.text "trim", v)]
    | .error fault => .error fault

/-- The written form.  An option is left out when it is not set. -/
def toPlain (s : Splitter) : Except Fault (List (Value × Value)) := do
  let delimiter ← s.delimiter.toPlain
  let trim ← trimEntries s.trimmer
  let omitEmpty := if s.omitEmpty then [(Value.text "omit_empty", Value.bool true)] else []
  let limit := match s.limit with
    | some n => [(Value.text "limit", Value.int n.1)]
    | none => []
  return delimiter ++ trim ++ omitEmpty ++ limit

/-- Sets the trimmer that a mapping asks for. -/
def withTrim (s : Splitter) (trim : Value) : Except Fault Splitter :=
  match trim with
  | .bool true | .text "whitespace" => .ok (s.trimming .blanks)
  | .dict fields => s.trimming <$> CharClass.ofPlain (.dict fields)
  | .null => .ok s
  | other =>
    if other.eqv (.bool false) then .ok s else Fault.refuse (.trimUnusable other)

/-- Sets the limit that a mapping asks for. -/
def withLimit (s : Splitter) (limit : Value) : Except Fault Splitter :=
  match limit with
  | .null => .ok s
  | given => s.limitedTo given

/-- The splitter of a delimiter with the options that the entries of a mapping set. -/
def ofOptions (d : Delimiter) (entries : List (Value × Value)) : Except Fault Splitter := do
  let s ← (plain d).withTrim ((Value.get? entries "trim").getD .null)
  let s := if ((Value.get? entries "omit_empty").getD (.bool false)).isTruthy then s.droppingEmpty
    else s
  s.withLimit ((Value.get? entries "limit").getD .null)

/-- Reads the written form. -/
def ofPlain [PatternReader] (data : Value) : Except Fault Splitter :=
  match data with
  | .dict entries => do
    let d ← Delimiter.ofPlain (.dict (Value.without entries optionNames))
    ofOptions d entries
  | other => Fault.refuse (.splitterNoMapping other)

end Splitter

/-! ## Splitting values -/

/-- The text of a source at present: a buffer's contents, or what the value reads as. -/
def Value.contents : Value → List Char
  | .thing (.buffer s) => s.toList
  | v => v.shown.toList

namespace Splitter

/-- A source that is nothing at all is refused before anything is read. -/
def checkSource (s : Splitter) (source : Value) : Except Fault Unit :=
  match source with
  | .null => Fault.refuse (.textNull s.spelling)
  | _ => .ok ()

/-- Tokens cannot be changed, neither by setting one nor by taking one out. -/
def change (_ : Splitter) (index : Value) : Except Fault Unit := Fault.refuse (.readOnly index)

/-- The tokens of a source. -/
def split (s : Splitter) (source : Value) : Except Fault (List (List Char)) := do
  s.checkSource source
  return s.tokens source.contents

end Splitter

end TextSplit
