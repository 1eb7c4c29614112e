import TextSplit.Fault

/-!
# Tables

A table is a list of named columns over an index, which names its rows.  All columns have one cell
for each row.  Names are unique, and a column that is set anew keeps its place.

* `Table` — the tables; `Table.counted` is the index of rows that have no names of their own.
* `Table.set`, `Table.drop` — what is done to columns.
* `Table.select`, `Table.explode`, `Table.renumbered` — what is done to rows; `Table.rows` looks at them.
* `Table.names_set_of_has` — setting a column that is there changes no name.
* `Table.column?_set` — a column that has been set holds the cells it was set to.
-/

namespace TextSplit

/-- A named column. -/
structure Column where
  name : Value
  cells : List Value
  deriving Inhabited

/-- Whether a column has a text as its name. -/
def Column.isNamed (c : Column) (name : String) : Bool :=
  match c.name with
  | .text s => s == name
  | _ => false

/-- The cell of a column at a place, nothing where it has none. -/
def Column.cell (c : Column) (place : Nat) : Value := c.cells[place]?.getD .null

/-- Named columns over an index. -/
structure Table where
  index : List Value
  columns : List Column
  deriving Inhabited

namespace Table

/-- The first numbers, as many as there are rows. -/
def counted (rows : Nat) : List Value := (List.range rows).map fun (n : Nat) => .int n

/-- The number of rows. -/
def size (t : Table) : Nat := t.index.length

/-- The names of the columns in order. -/
def names (t : Table) : List Value := t.columns.map (·.name)

/-- Whether there is a column of some name. -/
def has (t : Table) (name : String) : Bool := t.columns.any (·.isNamed name)

/-- The cells of a column. -/
def column? (t : Table) (name : String) : Option (List Value) :=
  (t.columns.find? (·.isNamed name)).map (·.cells)

/-- The cells of a column that has to be there. -/
def column (t : Table) (name : String) : Except Fault (List Value) :=
  match t.column? name with
  | some cells => .ok cells
  | none => Fault.fail .noKey

/-- Columns with one of them set: in place if it is there, at the end if it is new. -/
def setIn (name : String) (cells : List Value) : List Column → List Column
  | [] => [⟨.text name, cells⟩]
  | c :: rest =>
    if c.isNamed name then ⟨c.name, cells⟩ :: rest else c :: setIn name cells rest

/-- Sets the cells of a column. -/
def set (t : Table) (name : String) (cells : List Value) : Table :=
  { t with columns := setIn name cells t.columns }

/-- Leaves out a column that has to be there. -/
def drop (t : Table) (name : String) : Except Fault Table :=
  if t.has name then .ok { t with columns := t.columns.filter fun c => !c.isNamed name }
  else Fault.fail .noKey

/-- The cells of a row, one in each column. -/
def row (t : Table) (place : Nat) : List Value := t.columns.map (·.cell place)

/-- The rows in order. -/
def rows (t : Table) : List (List Value) := (List.range t.size).map t.row

/-! ## What is done to rows -/

/-- The items that have a mark beside them. -/
def marked {α : Type} (marks : List Bool) (items : List α) : List α :=
  ((marks.zip items).filter Prod.fst).map Prod.snd

/-- The rows that have a mark beside them. -/
def select (t : Table) (marks : List Bool) : Table :=
  ⟨marked marks t.index, t.columns.map fun c => ⟨c.name, marked marks c.cells⟩⟩

/-- Every item as often as the number beside it says. -/
def repeatEach {α : Type} (times : List Nat) (items : List α) : List α :=
  (times.zip items).flatMap fun (n, item) => List.replicate n item

/-- Every row as often as the number beside it says. -/
def repeated (t : Table) (times : List Nat) : Table :=
  ⟨repeatEach times t.index, t.columns.map fun c => ⟨c.name, repeatEach times c.cells⟩⟩

/-- The cells that take the place of one cell: the items of a list, of which there is always one, or the
cell itself. -/
def partsOf : Value → List Value
  | .list [] => [.null]
  | .list items => items
  | v => [v]

/-- A row for every part of the cell in a column, with the part in its place. -/
def explode (t : Table) (name : String) : Except Fault Table := do
  let cells ← t.column name
  let parts := cells.map partsOf
  return (t.repeated (parts.map List.length)).set name parts.flatten

/-- The rows without names of their own. -/
def renumbered (t : Table) : Table := { t with index := counted t.size }

/-! ## Columns that are set -/

theorem names_setIn_of_any (name : String) (cells : List Value) (columns : List Column)
    (h : columns.any (·.isNamed name) = true) :
    (setIn name cells columns).map (·.name) = columns.map (·.name) := by
  induction columns with
  | nil => simp at h
  | cons c rest ih =>
    by_cases hc : c.isNamed name = true
    · simp [setIn, hc]
    · simp only [List.any_cons, hc, Bool.false_or] at h
      simp [setIn, hc, ih h]

/-- Setting a column that is there changes no name. -/
theorem names_set_of_has (t : Table) (name : String) (cells : List Value)
    (h : t.has name = true) : (t.set name cells).names = t.names :=
  names_setIn_of_any name cells t.columns h

/-- A column that has been set holds the cells it was set to. -/
theorem column?_set (t : Table) (name : String) (cells : List Value) :
    (t.set name cells).column? name = some cells := by
  unfold column? set
  induction t.columns with
  | nil => simp [setIn, Column.isNamed]
  | cons c rest ih =>
    by_cases hc : c.isNamed name = true
    · have : (⟨c.name, cells⟩ : Column).isNamed name = true := hc
      simp [setIn, hc, this]
    · simpa [setIn, hc] using ih

end Table

end TextSplit
