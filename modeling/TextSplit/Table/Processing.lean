import TextSplit.PairSplitter.Plain
import TextSplit.Table.File

/-!
# Processing tables

Processing starts with a table whose records are counted.  Then it either gives every token a row of
its own, or adds the pairs of every record to the row that it has.

* `Source` — where a table comes from.
* `Table.load` — the table of a source, with its records counted.
* `Table.splitTokens`, `Table.splitPairs` — the two ways to process it.
* `Settings.process` — all of it as settings demand.
-/

namespace TextSplit

/-- Where a table comes from. -/
inductive Source where
  | table (t : Table)
  /-- A value, which has to name a file. -/
  | value (v : Value)
  deriving Inhabited

/-- The path that a source names. -/
def Source.path? : Source → Option Path
  | .value (.text p) => some (Path.ofText p)
  | .value (.thing (.path p)) => some (Path.ofText p)
  | _ => none

namespace Table

/-! ## Loading -/

/-- The table of a source as it is. -/
def ofSource (target : String) (f : Folder) : Source → Except Fault Table
  | .table t => .ok t
  | .value (.text p) => ofFile target f (Path.ofText p)
  | .value (.thing (.path p)) => ofFile target f (Path.ofText p)
  | .value v => Fault.refuse (.sourceUnsupported v)

/-- A table with its records counted, which has to have a column of texts. -/
def withRecords (target : String) (t : Table) : Except Fault Table :=
  if t.has target then .ok (t.set Defaults.recordColumn (counted t.size))
  else Fault.refuse (.targetMissing target t.names)

/-- The table of a source, with its records counted. -/
def load (target : String) (f : Folder) (source : Source) : Except Fault Table := do
  let t ← ofSource target f source
  withRecords target t

/-- Leaves out the column of the texts if settings say so. -/
def finish (s : TableSettings) (t : Table) : Except Fault Table :=
  if s.dropTarget then t.drop s.target else .ok t

/-! ## Tokens -/

/-- Tokens as cells. -/
def tokenCells (tokens : List (List Char)) : List Value :=
  tokens.map fun token => .text (String.ofList token)

/-- Whether a cell is a list with something in it. -/
def hasItems : Value → Bool
  | .list items => !items.isEmpty
  | _ => false

/-- The rows whose tokens, a list in one cell, are at least one; each of them gets a row of its own.  All
tokens are counted. -/
def withTokens (t : Table) (tokens : List (List (List Char))) : Except Fault Table := do
  let t := t.set Defaults.tokenColumn (tokens.map fun record => .list (tokenCells record))
  let lists ← t.column Defaults.tokenColumn
  let t := t.select (lists.map hasItems)
  let t ← t.explode Defaults.tokenColumn
  let t := t.renumbered
  return t.set Defaults.tokenCountColumn (counted t.size)

/-- One row for every token.  A record without tokens has none. -/
def splitTokens (splitter : Splitter) (s : TableSettings) (t : Table) : Except Fault Table := do
  let texts ← t.column s.target
  let tokens ← texts.mapM splitter.split
  let t ← t.withTokens tokens
  finish s t

/-! ## Pairs -/

/-- The pairs of one record. -/
abbrev Pairs := List (List Char × List Char)

/-- The pairs of all records from a number on, or the fault of the first record that has one. -/
def pairsFrom (m : PairSplitter) (record : Nat) : List Value → Except Fault (List Pairs)
  | [] => .ok []
  | text :: rest =>
    match m.splitValue text with
    | .error fault => .error (fault.atRecord record)
    | .ok pairs =>
      match pairsFrom m (record + 1) rest with
      | .error fault => .error fault
      | .ok others => .ok (pairs :: others)

/-- The keys of all records, each where it first occurs. -/
def keysOf (pairs : List Pairs) : List (List Char) :=
  (pairs.flatMap fun record => record.map Prod.fst).eraseDups

/-- The cells of a key: its value in each record, and nothing where it has none. -/
def keyCells (pairs : List Pairs) (key : List Char) : List Value :=
  pairs.map fun record =>
    match record.lookup key with
    | some value => .text (String.ofList value)
    | none => .null

/-- The columns of the keys. -/
def keyColumns (pairs : List Pairs) : List Column :=
  (keysOf pairs).map fun key => ⟨.text (String.ofList key), keyCells pairs key⟩

/-- The names that keys and columns have in common, in order. -/
def clashes (t : Table) (pairs : List Pairs) : List String :=
  ((keysOf pairs).map String.ofList).filter t.has |>.mergeSort

/-- A table with a column for every key in the place of the column of the pairs. -/
def expand (t : Table) (pairs : List Pairs) : Except Fault Table :=
  match t.clashes pairs with
  | [] => do
    let t ← t.drop Defaults.pairsColumn
    return { t with columns := t.columns ++ keyColumns pairs }
  | names => Fault.refuse (.keysClash (names.map .text))

/-- The pairs of every record in its row. -/
def splitPairs (m : PairSplitter) (s : TableSettings) (t : Table) : Except Fault Table := do
  let texts ← t.column s.target
  let pairs ← pairsFrom m 0 texts
  let t := t.set Defaults.pairsColumn (pairs.map fun p => .dict (PairSplitter.entriesOf p))
  let t ← if s.expandPairs then t.expand pairs else pure t
  finish s t

end Table

/-! ## The whole -/

namespace Settings

/-- One row for every token of a loaded table. -/
def splitTokens (s : Settings) (t : Table) : Except Fault Table := t.splitTokens s.splitter s.table

/-- The pairs of every record of a loaded table, for which a separator has to be set. -/
def splitPairs (s : Settings) (t : Table) : Except Fault Table :=
  match s.pairSplitter? with
  | some m => t.splitPairs m s.table
  | none => Fault.refuse .pairsNotSet

/-- Splits a loaded table: into pairs if a separator is set, else into tokens. -/
def split (s : Settings) (t : Table) : Except Fault Table :=
  match s.separator with
  | some _ => s.splitPairs t
  | none => s.splitTokens t

/-- The processed table of a source. -/
def process (s : Settings) (f : Folder) (source : Source) : Except Fault Table := do
  let t ← Table.load s.table.target f source
  s.split t

end Settings

end TextSplit
