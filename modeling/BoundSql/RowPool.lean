/-
  Rows collected for one table and written together.

  A pool holds rows of fixed columns.  A row is pushed after the pool has been
  written if it was full; `commit` writes what is left.

  * `create` checks the table, the columns and the capacity;
  * `insertion` is the INSERT of the rows that are held;
  * after a failure the pool is as before, and a row that does not fit is
    refused before anything is written.
-/
import BoundSql.Query.Edit
import BoundSql.Query.Run

namespace BoundSql

/-- Rows of fixed columns that wait to be written to one table. -/
structure RowPool where
  table : String
  columns : List String
  /-- The number of rows that are held at most. -/
  capacity : Nat
  rows : List (List Value) := []

namespace RowPool

/-- An empty pool. -/
def create (table : String) (columns : List String) (capacity : Nat) : Except Misuse RowPool :=
  if table = "" then .error .poolWithoutTable
  else if columns.isEmpty then .error .poolWithoutColumns
  else if capacity = 0 then .error .poolWithoutRoom
  else .ok ⟨table, columns, capacity, []⟩

/-- The number of rows that are held. -/
def size (p : RowPool) : Nat := p.rows.length

def isEmpty (p : RowPool) : Bool := p.rows.isEmpty

/-- The INSERT that a commit would run. -/
def insertion (p : RowPool) : Except Misuse Query :=
  Query.ofEdits [.insert p.table, .valuesMany (p.rows.map fun row => p.columns.zip row)]

/-- The values of a row in the order of the pool's columns. -/
def align (p : RowPool) (entries : List (String × Value)) : Except Misuse (List Value) :=
  match (Assignments.ofEntries entries).align? p.columns with
  | some row => .ok row
  | none => .error (.poolRowMismatch p.columns)

variable {σ : Type}

/-- Writes the rows that are held, if any, and gives the number of rows
    written. -/
def commit (conn : Connection σ) (p : RowPool) (s : Session σ) :
    Except Error Nat × RowPool × Session σ :=
  if p.isEmpty then (.ok 0, p, s)
  else
    let work : Exec σ Nat := do
      let q ← Exec.ofExcept (p.insertion.mapError .config)
      let affected ← q.rowCount conn
      Exec.emit (.flushed p.table p.size affected)
      return affected
    match s.run work with
    | (.ok affected, s) => (.ok affected, { p with rows := [] }, s)
    | (.error e, s) => (.error e, p, s)

/-- Holds one more row, after writing those held if the pool is full. -/
def push (conn : Connection σ) (entries : List (String × Value)) (p : RowPool) (s : Session σ) :
    Except Error Unit × RowPool × Session σ :=
  match p.align entries with
  | .error m => (.error (.config m), p, s)
  | .ok row =>
    if p.size < p.capacity then (.ok (), { p with rows := p.rows ++ [row] }, s)
    else
      match p.commit conn s with
      | (.ok _, p, s) => (.ok (), { p with rows := p.rows ++ [row] }, s)
      | (.error e, p, s) => (.error e, p, s)

end RowPool

end BoundSql
