import TextSplit.CharClass
import TextSplit.Fault
import TextSplit.Value.Order

/-!
# Character classes as plain data

A class without tests can be written down: a mapping that says whether the blanks belong to it and
which characters do.  Callers may also hand in a class in a shorter way, as the text of its
characters or as a test.

* `CharClass.toPlain`, `CharClass.ofPlain` — the written form and its reader.
* `CharClass.ofMembers`, `ofSingle`, `ofArgument` — what callers may hand in.
* `CharClass.holdsValue` — the decision for a value of any type.
-/

namespace TextSplit

namespace Value

/-- The parts of a value that can be gone through one by one. -/
def items? : Value → Option (List Value)
  | .text s => some (s.toList.map fun c => .text c.toString)
  | .bytes bs => some (bs.map fun b => .int b.toNat)
  | .list items => some items
  | .tuple items => some items
  | .dict entries => some (entries.map Prod.fst)
  | .thing (.buffer _) => some []
  | _ => none

/-- The characters of a text value. -/
def text? : Value → Option (List Char)
  | .text s => some s.toList
  | _ => none

end Value

namespace CharClass

/-! ## The written form -/

/-- The fields of the written form. -/
def fieldNames : List String := ["whitespace", "any_of"]

/-- The written form: a field is left out when it says nothing. -/
def toPlain (k : CharClass) : Except Fault (List (Value × Value)) :=
  if k.isPlain then
    .ok ((if k.blank then [(.text "whitespace", .bool true)] else [])
      ++ (if k.members.isEmpty then []
          else [(.text "any_of", .text (String.ofList k.members.joined))]))
  else
    Fault.refuse (.classNotPlain (k.tests.map CharTest.name))

/-- The class that the fields of a mapping describe. -/
def ofFields (entries : List (Value × Value)) : Except Fault CharClass :=
  match (Value.get? entries "any_of").getD (.text "") with
  | .text chars =>
    .ok ⟨.ofChars chars.toList, ((Value.get? entries "whitespace").getD (.bool false)).isTruthy, []⟩
  | other => Fault.refuse (.anyOfNoText other)

/-- Reads the written form.  Every part of the value has to be the name of a field. -/
def ofPlain (data : Value) : Except Fault CharClass :=
  match data.items? with
  | none => Fault.fail .wrongType
  | some items =>
    if !items.all Value.isHashable then Fault.fail .wrongType
    else
      let unknown := Value.distinct <| items.filter fun v => match v with
        | .text name => !fieldNames.contains name
        | _ => true
      if unknown.isEmpty then
        match data with
        | .dict entries => ofFields entries
        | _ => Fault.fail .noAttribute
      else
        match Value.sorted? unknown with
        | some fields => Fault.refuse (.classFieldsUnknown fields)
        | none => Fault.fail .wrongType

/-! ## What callers may hand in -/

/-- The class of the texts that a value is made of. -/
def ofMembers (members : Value) : Except Fault CharClass :=
  match members.items?.bind fun items => items.mapM Value.text? with
  | some texts => .ok ⟨.ofList texts, false, []⟩
  | none => Fault.fail .wrongType

/-- The class of one character. -/
def ofSingle (char : Value) : Except Fault CharClass :=
  match char.text? with
  | some [c] => .ok (anyOf [c])
  | _ => Fault.refuse (.charNotSingle char)

/-- The class that a caller means: a class, the text of its characters, or a test. -/
def ofArgument (given : Value) : Except Fault CharClass :=
  match given with
  | .thing (.charClass k) => .ok k
  | .text chars => .ok (anyOf chars.toList)
  | .thing (.test t) => .ok (ofTest t)
  | other => Fault.refuse (.noClass other)

/-! ## The decision for any value -/

/-- The bytes that are blank. -/
def blankBytes : List UInt8 := [9, 10, 11, 12, 13, 32]

/-- Whether a value that is no text counts as blank, if the question makes sense. -/
def isBlankValue : Value → Except Fault Bool
  | .bytes bs => .ok (!bs.isEmpty && bs.all blankBytes.contains)
  | _ => Fault.fail .noAttribute

/-- Whether one of several tests accepts a value that is no text.  Tests are asked in turn. -/
def anyAccepts : List CharTest → Except Fault Bool
  | [] => .ok false
  | t :: rest =>
    match t.onOther with
    | none => Fault.fail .wrongType
    | some true => .ok true
    | some false => anyAccepts rest

/-- Whether a class holds a value.  Only texts are members, but the blanks and the tests are asked
about other values too, in this order. -/
def holdsValue (k : CharClass) (v : Value) : Except Fault Bool :=
  match v with
  | .text s => .ok (k.holds s.toList)
  | other =>
    if !other.isHashable then Fault.fail .wrongType
    else if k.blank then
      match isBlankValue other with
      | .ok true => .ok true
      | .ok false => anyAccepts k.tests
      | .error fault => .error fault
    else anyAccepts k.tests

end CharClass

end TextSplit
