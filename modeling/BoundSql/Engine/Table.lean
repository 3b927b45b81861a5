/-
  Tables: rows by an integer key.

  The rows of a table are kept in the order of their keys.

  * `contains`, `put` and `nextKey` are what insertion needs;
  * `Placement` says which values of a new row go into which columns;
  * `Insertion.run` inserts rows one after the other, up to the first that is
    refused, and remembers the key of the last;
  * `Table.update` and `Table.delete` change the rows that meet a condition.
-/
import BoundSql.Engine.Scope

namespace BoundSql.Engine

/-- A stored row: its key, and the cells of the other columns. -/
structure Record where
  key : Int64
  cells : List Cell

/-- All cells of a record, the key first. -/
def Record.allCells (r : Record) : List Cell := .integer r.key :: r.cells

/-- A table whose first column is the key. -/
structure Table where
  name : String
  keyColumn : String
  columns : List String
  records : List Record := []

namespace Table

/-! ## Records -/

/-- All columns, the key first. -/
def allColumns (t : Table) : List String := t.keyColumn :: t.columns

/-- What precedes the name of a table in the command that creates it. -/
def creation : String := "CREATE TABLE "

/-- The command that creates the table. -/
def definition (t : Table) : String :=
  creation ++ t.name ++ " (" ++
    ", ".intercalate ((t.keyColumn ++ " INTEGER PRIMARY KEY") :: t.columns) ++ ")"

/-- Where the command that creates the table names it. -/
def namePlace (t : Table) : Place := ⟨t.definition, creation.utf8ByteSize⟩

/-- Whether there is a record with a key. -/
def contains (t : Table) (key : Int64) : Bool := t.records.any (·.key = key)

/-- Puts a record in its place, instead of one with its key. -/
def putRecord (r : Record) : List Record → List Record
  | [] => [r]
  | s :: rest =>
    if r.key = s.key then r :: rest
    else if r.key < s.key then r :: s :: rest
    else s :: putRecord r rest

/-- The table with a record in its place. -/
def put (t : Table) (r : Record) : Table := { t with records := putRecord r t.records }

/-- The key of a new row that names none: one more than the largest. -/
def nextKey (t : Table) : Int64 :=
  match t.records.getLast? with
  | none => 1
  | some r => r.key + 1

end Table

/-- Whether a record meets a condition, if there is one. -/
def Record.meets (params : Array Cell) (filter : Option Expression) (r : Record) : Bool :=
  match filter with
  | none => true
  | some e => e.holds { params, row := r.allCells }

/-! ## Insertion -/

/-- Which values of a new row go into which columns, by their places. -/
structure Placement where
  key : Option Nat
  others : List (Option Nat)

namespace Placement

/-- The placement of values for some columns, given by number.  If a column
    occurs twice, its first value counts, but the last one for the key. -/
def ofColumns (width : Nat) (columns : List Nat) : Placement where
  key := (columns.zipIdx.filter fun p => p.1 = 0).getLast?.map Prod.snd
  others := (List.range width).map fun i => columns.findIdx? (· = i + 1)

/-- The cell at a place; a column without one is null. -/
def cell (values : List Cell) (place : Option Nat) : Cell :=
  (place.bind (values[·]?)).getD .null

end Placement

/-- A table during an insertion. -/
structure Insertion where
  table : Table
  /-- The key of the row inserted last. -/
  lastKey : Int64
  count : Nat := 0

namespace Insertion

/-- The key of a new row: the one that is given, or the next. -/
def chooseKey (t : Table) (given : Cell) : Except EngineFault Int64 :=
  match given, given.toKey? with
  | .null, _ => .ok t.nextKey
  | _, some key => .ok key
  | _, none => .error .datatypeMismatch

/-- Inserts a row of values. -/
def insert (replace : Bool) (p : Placement) (values : List Cell) (i : Insertion) :
    Except EngineFault Insertion := do
  let t := i.table
  let key ← chooseKey t (Placement.cell values p.key)
  if !replace && t.contains key then throw (.duplicateKey (t.name ++ "." ++ t.keyColumn))
  return {
    table := t.put ⟨key, p.others.map (Placement.cell values)⟩
    lastKey := key
    count := i.count + 1 }

/-- Inserts rows in turn, up to the first that is refused. -/
def run (replace : Bool) (p : Placement) :
    List (List Cell) → Insertion → Except EngineFault Unit × Insertion
  | [], i => (.ok (), i)
  | values :: rows, i =>
    match i.insert replace p values with
    | .ok i => run replace p rows i
    | .error e => (.error e, i)

end Insertion

/-! ## Changes -/

namespace Table

/-- A record with other cells in some columns, given by number; the last
    assignment to a column counts. -/
def assign (params : Array Cell) (sets : List (Nat × Expression)) (r : Record) :
    Except EngineFault Record := do
  let env : Environment := { params, row := r.allCells }
  let cell (column : Nat) (old : Cell) : Cell :=
    ((sets.reverse.find? (·.1 = column)).map fun p => p.2.eval env).getD old
  match (cell 0 (.integer r.key)).toKey? with
  | none => throw .datatypeMismatch
  | some key => return ⟨key, r.cells.zipIdx.map fun (old, i) => cell (i + 1) old⟩

/-- Replaces records one after the other. -/
def updateAll (params : Array Cell) (sets : List (Nat × Expression)) :
    List Record → Table → Except EngineFault Table
  | [], t => .ok t
  | r :: rest, t => do
    let s ← assign params sets r
    if s.key ≠ r.key && t.contains s.key then throw (.duplicateKey (t.name ++ "." ++ t.keyColumn))
    updateAll params sets rest ({ t with records := t.records.filter (·.key ≠ r.key) }.put s)

/-- Changes the records that meet a condition, and counts them. -/
def update (t : Table) (params : Array Cell) (sets : List (Nat × Expression))
    (filter : Option Expression) : Except EngineFault (Table × Nat) := do
  let found := t.records.filter (·.meets params filter)
  return (← updateAll params sets found t, found.length)

/-- Removes the records that meet a condition, and counts them. -/
def delete (t : Table) (params : Array Cell) (filter : Option Expression) : Table × Nat :=
  let (gone, kept) := t.records.partition (·.meets params filter)
  ({ t with records := kept }, gone.length)

end Table

end BoundSql.Engine
