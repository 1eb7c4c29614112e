import TextSplit.Defaults
import TextSplit.Folder
import TextSplit.Table
import TextSplit.Table.Cell
import TextSplit.Table.Heading
import TextSplit.Table.Sheet
import TextSplit.Text.Lines

/-!
# Tables in files

Two kinds of files can be read as tables, and the ending of the name tells them apart.  A plain text
is a table of one cell.  A sheet has a row of headings over rows of cells; if its first row of cells
is longer than the headings, what it has too much in front names the rows.

* `Table.ofText` — the table of a plain text.
* `Table.ofRows` — the table of the rows of a sheet.
* `Table.ofFile` — the table that a path leads to.
-/

namespace TextSplit.Table

/-- The table of a plain text, in which every faulty run of bytes is replaced. -/
def ofText (target : String) (bytes : List UInt8) : Table :=
  let text := Lines.unified (Utf8.decodeReplacing bytes)
  ⟨counted 1, [⟨.text target, [.text (String.ofList text)]⟩]⟩

/-! ## Sheets -/

/-- The cells at one place of all rows.  A row that is too short has an empty cell there. -/
def cellsAt (rows : List (List String)) (place : Nat) : List String :=
  rows.map fun row => row[place]?.getD ""

/-- The names of the rows: their numbers, or what stands in the columns in front. -/
def indexOf (rows : List (List String)) (inFront : Nat) : List Value :=
  match inFront with
  | 0 => counted rows.length
  | 1 => Cell.typed (cellsAt rows 0)
  | n => (List.range n).map (fun place => Cell.typed (cellsAt rows place)) |>.foldr
      (fun cells tails => List.zipWith (fun c tail => c :: tail) cells tails)
      (rows.map fun _ => []) |>.map .tuple

/-- The column under a heading.  The cells of the target stay texts, also where the heading of the
target is repeated. -/
def columnOf (target : String) (heading name : String) (cells : List String) : Column :=
  ⟨.text name, if name == target || heading == target then cells.map .text else Cell.typed cells⟩

/-- The table of the rows of a sheet.  No row may be longer than both the headings and the first
row of cells. -/
def ofRows (target : String) : List (List String) → Except Fault Table
  | [] => Fault.fail .emptyTable
  | headings :: rows =>
    let first := (rows.head?.getD []).length
    let width := max headings.length first
    let inFront := first - headings.length
    if rows.any fun row => width < row.length then Fault.fail .malformedTable
    else
      let names := Heading.distinct headings
      let columns := (headings.zip names).zipIdx.map fun ((heading, name), place) =>
        columnOf target heading name (cellsAt rows (inFront + place))
      .ok ⟨indexOf rows inFront, columns⟩

/-- The table of a sheet. -/
def ofSheet (target : String) (bytes : List UInt8) : Except Fault Table :=
  match Sheet.ofBytes? bytes with
  | none => Fault.fail .undecodable
  | some text =>
    match Sheet.rows? text with
    | none => Fault.fail .malformedTable
    | some rows => ofRows target (rows.map fun row => row.map Sheet.cell)

/-! ## Files -/

/-- The ending of a path in small letters. -/
def ending (p : Path) : String := String.ofList (p.suffix.toList.map Char.toLower)

/-- Why nothing can be read at a place, which has a number and a wording. -/
def unreadable : Place → Option (Nat × String)
  | .missing => some (2, "No such file or directory")
  | .blocked => some (20, "Not a directory")
  | .directory => some (21, "Is a directory")
  | .file _ => none

/-- The reason why a path cannot be read. -/
def reason (p : Path) (number : Nat) (wording : String) : String :=
  "[Errno " ++ toString number ++ "] " ++ wording ++ ": " ++ (Value.text p.shown).spelling

/-- The bytes of the file that a path leads to. -/
def bytesOf (f : Folder) (p : Path) : Except Fault (List UInt8) :=
  if p.shown.toList.contains '\x00' then Fault.fail .wrongValue
  else
    match f.look p with
    | .file bytes => .ok bytes
    | place =>
      match unreadable place with
      | some (number, wording) => Fault.refuse (.fileUnreadable p.shown (reason p number wording))
      | none => .ok []

/-- The table that a path leads to. -/
def ofFile (target : String) (f : Folder) (p : Path) : Except Fault Table :=
  if !Defaults.tableSuffixes.contains (ending p) then
    Fault.refuse (.suffixUnsupported p.shown p.suffix)
  else do
    let bytes ← bytesOf f p
    if ending p = ".txt" then .ok (ofText target bytes) else ofSheet target bytes

end TextSplit.Table
