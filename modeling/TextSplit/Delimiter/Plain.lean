import TextSplit.CharClass.Plain
import TextSplit.Delimiter

/-!
# Delimiters as plain data

A delimiter is written down as a mapping that names its kind and holds the one thing that kind
needs.  The same checks hold for what a caller hands in directly and for what a mapping holds.

* `Delimiter.ofChar`, `ofLiteral`, `ofPattern`, `ofLength`, `ofClass` — one kind each, from a value.
* `Delimiter.compiled` — the delimiter of a pattern that has still to be read.
* `Delimiter.toPlain`, `Delimiter.ofPlain` — the written form and its reader.
-/

namespace TextSplit

namespace Pattern

/-- What a caller sees of a fault of a pattern whose characters are `chars`. -/
def seen (source : Value) (chars : List Char) (fault : Fault) : TextSplit.Fault :=
  match fault.failure? with
  | some failure => .failed failure
  | none => .reported (.patternMalformed source (fault.wording chars))

/-- Reads a pattern from values.  A pattern that has been read already takes no more flags, and a
pattern of bytes is looked at but cuts no text.  A number with a fraction is no set of flags; only if it is
whole and the pattern is remembered under it, the pattern is there already. -/
def ofValues [PatternReader] (source flags : Value) : Except TextSplit.Fault Pattern :=
  if !source.isHashable || !flags.isHashable then TextSplit.Fault.fail .wrongType
  else
    match source with
    | .thing (.pattern p) => if flags.isTruthy then TextSplit.Fault.fail .wrongValue else .ok p
    | .text s =>
      match flags.asInt? with
      | some n => (PatternReader.compile s.toList n).mapError (seen source s.toList)
      | none => remembered s.toList
    | .bytes bs =>
      match flags.asInt?.map (PatternReader.checkBytes bs) with
      | some (.error fault) => .error (seen source (charsOf bs) fault)
      | _ => TextSplit.Fault.fail .wrongType
    | _ => TextSplit.Fault.fail .wrongType
where
  /-- The pattern that is remembered under flags that are no integer. -/
  remembered (chars : List Char) : Except TextSplit.Fault Pattern :=
    match flags with
    | .real x =>
      match x.whole?.map fun n => (PatternReader.remembers chars n, PatternReader.compile chars n) with
      | some (true, .ok p) => .ok p
      | _ => TextSplit.Fault.fail .wrongType
    | _ => TextSplit.Fault.fail .wrongType

end Pattern

namespace Delimiter

/-! ## One kind each -/

/-- A delimiter at one character. -/
def ofChar (given : Value) : Except Fault Delimiter :=
  match given.text? with
  | some [c] => .ok (.char c)
  | _ => Fault.refuse (.delimiterCharNotSingle given)

/-- A delimiter at a text, which may not be empty. -/
def ofLiteral (given : Value) : Except Fault Delimiter :=
  match given.text? with
  | some (c :: rest) => .ok (.literal (c :: rest) (by simp))
  | _ => Fault.refuse (.separatorEmpty given)

/-- A delimiter at the matches of a pattern that has been read. -/
def ofCompiled (p : Pattern) : Except Fault Delimiter :=
  if cuts : p.matchesEmpty = false then .ok (.pattern p cuts)
  else Fault.refuse (.patternMatchesEmpty (.text (String.ofList p.source)))

/-- A delimiter at the matches of a pattern. -/
def ofPattern (given : Value) : Except Fault Delimiter :=
  match given with
  | .thing (.pattern p) => ofCompiled p
  | other => Fault.refuse (.noPattern other)

/-- A delimiter behind every so many characters, at least one. -/
def ofLength (given : Value) : Except Fault Delimiter :=
  match given with
  | .int n =>
    if positive : 0 < n.toNat then .ok (.chunk n.toNat positive)
    else Fault.refuse (.lengthNotPositive given)
  | other => Fault.refuse (.lengthNotPositive other)

/-- A delimiter at the characters of a class. -/
def ofClass (given : Value) : Except Fault Delimiter :=
  match given with
  | .thing (.charClass k) => .ok (.charClass k)
  | other => Fault.refuse (.delimiterClassExpected other)

/-- A delimiter at the matches of a pattern that is read first. -/
def compiled [PatternReader] (source flags : Value) : Except Fault Delimiter :=
  match Pattern.ofValues source flags with
  | .ok p => ofCompiled p
  | .error fault => .error fault

/-! ## The written form -/

/-- The written form.  Of the flags of a pattern those that have a name are written, if there are any. -/
def toPlain : Delimiter → Except Fault (List (Value × Value))
  | .char c => .ok [typed "char", (.text "separator", .text c.toString)]
  | .literal separator _ =>
    .ok [typed "string", (.text "separator", .text (String.ofList separator))]
  | .pattern p _ =>
    .ok ([typed "pattern", (.text "pattern", .text (String.ofList p.source))]
      ++ if p.flags.written = Pattern.Flags.none then []
        else [(.text "flags", .thing (.flags p.flags.written))])
  | .chunk length _ => .ok [typed "fixed_length", (.text "length", .int length)]
  | .charClass k =>
    match k.toPlain with
    | .ok fields => .ok (typed "char_class" :: fields)
    | .error fault => .error fault
where
  typed (name : String) : Value × Value := (.text "type", .text name)

/-- The value of a field that has to be there. -/
def required (entries : List (Value × Value)) (field : String) : Except Fault Value :=
  match Value.get? entries field with
  | some v => .ok v
  | none =>
    Fault.refuse <|
      .delimiterFieldMissing ((Value.get? entries "type").getD (.text "Delimiter")) field entries

/-- The delimiter of a named kind that the entries of a mapping describe. -/
def ofEntries [PatternReader] (kind : String) (entries : List (Value × Value)) : Except Fault Delimiter :=
  match kind with
  | "char" => required entries "separator" >>= ofChar
  | "string" => required entries "separator" >>= ofLiteral
  | "pattern" => do
    let source ← required entries "pattern"
    compiled source ((Value.get? entries "flags").getD (.int 0))
  | "fixed_length" => required entries "length" >>= ofLength
  | _ => do
    let k ← CharClass.ofPlain (.dict (Value.without entries ["type"]))
    return .charClass k

/-- The kind that a mapping names. -/
def kindOf (data : Value) : Except Fault (String × List (Value × Value)) :=
  match data with
  | .dict entries =>
    match Value.get? entries "type" with
    | none => Fault.refuse .delimiterTypeMissing
    | some kind =>
      if !kind.isHashable then Fault.fail .wrongType
      else
        match kind with
        | .text name =>
          if Cause.delimiterTypes.contains name then .ok (name, entries)
          else Fault.refuse (.delimiterTypeUnknown kind)
        | other => Fault.refuse (.delimiterTypeUnknown other)
  | other => Fault.refuse (.delimiterNoMapping other)

/-- Reads the written form. -/
def ofPlain [PatternReader] (data : Value) : Except Fault Delimiter := do
  let (kind, entries) ← kindOf data
  ofEntries kind entries

end Delimiter

end TextSplit
