import TextSplit.Delimiter.Plain

/-!
# Boundaries from a signed place

A place may be given by a number of either sign.  What a negative place means depends on the kind
of the delimiter: a search for characters counts it from the end of the text, a pattern takes it as
the start, a chunk is measured from where it lies, and a class reads backwards from the end.

* `Delimiter.locateSigned` — the next boundary at or behind a signed place.
-/

namespace TextSplit.Delimiter

/-- A boundary whose ends may be negative. -/
abbrev Boundary := Int × Int

/-- The boundary between two places of a text. -/
def boundary (span : Nat × Nat) : Boundary := (span.1, span.2)

/-- A place counted from the end of a text when it is negative, and never before the start. -/
def countedBack (length : Nat) (start : Int) : Nat :=
  if start < 0 then (start + length).toNat else start.toNat

/-- Beyond this number, on either side, a place cannot be counted. -/
def placeBound : Int := Nat.pow 2 63

/-- The next boundary at or behind a signed place. -/
def locateSigned (d : Delimiter) (text : List Char) (start : Int) :
    Except Fault (Option Boundary) :=
  match d with
  | .char _ | .literal _ _ =>
    .ok ((d.locate text (countedBack text.length start)).map boundary)
  | .pattern _ _ =>
    if start < -placeBound || placeBound ≤ start then Fault.fail .overflow
    else .ok ((d.locate text (min start.toNat text.length)).map boundary)
  | .chunk length _ =>
    let stop := start + length
    .ok (if stop < text.length then some (stop, stop) else none)
  | .charClass k =>
    if 0 ≤ start then .ok ((d.locate text start.toNat).map boundary)
    else if start < -(text.length : Int) then Fault.fail .outOfRange
    else
      match seek (fun rest => rest.head?.any k.accepts)
          (text.drop (start + text.length).toNat) 0 with
      | some s => .ok (some (start + s, start + s + 1))
      | none => .ok ((d.locate text 0).map boundary)

/-- A value is no delimiter, so that it has no boundaries in any text. -/
def locateValue (_ : Value) (_ : List Char) (_ : Int) : Except Fault (Option Boundary) :=
  Fault.fail .wrongType

end TextSplit.Delimiter
