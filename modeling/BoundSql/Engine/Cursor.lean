/-
  Results of a statement, fetched row by row.

  `Cursor.load` reads what running has given.  A result is read in full; if a
  row cannot be read, or the engine fails, those before it stay and the number
  of affected rows is that of an earlier run.
-/
import BoundSql.Engine.Store
import BoundSql.Row

namespace BoundSql.Engine

/-- A result in the course of being fetched. -/
structure Cursor where
  /-- The rows not fetched yet. -/
  pending : List Row := []
  /-- The number of rows that the last successful run wrote or returned. -/
  affected : Nat := 0

namespace Cursor

/-- A row of cells as values; the first text that is none decides. -/
def readRow (columns : List String) (cells : List Cell) : Except Error Row :=
  (·.foldl (fun r (column, v) => r.push column v) Row.empty) <$>
    (columns.zip cells).mapM fun (column, c) =>
      match c.toValue with
      | .ok v => .ok (column, v)
      | .error m => .error (.decode column (.notText m))

/-- Rows up to the first that cannot be read. -/
def readRows (columns : List String) : List (List Cell) → Except Error Unit × List Row
  | [] => (.ok (), [])
  | cells :: rest =>
    match readRow columns cells with
    | .error e => (.error e, [])
    | .ok r =>
      let (outcome, rows) := readRows columns rest
      (outcome, r :: rows)

/-- The outcome of a run, and the cursor after it. -/
def load (ran : Ran) (c : Cursor) : Except Error Unit × Cursor :=
  match ran with
  | .changed n => (.ok (), ⟨[], n⟩)
  | .refused fault => (.error (.engine fault), ⟨[], c.affected⟩)
  | .result columns cells fault =>
    match readRows columns cells, fault with
    | (.ok (), rows), none => (.ok (), ⟨rows, rows.length⟩)
    | (.ok (), rows), some fault => (.error (.engine fault), ⟨rows, c.affected⟩)
    | (.error e, rows), _ => (.error e, ⟨rows, c.affected⟩)

/-- The next row, and the cursor without it. -/
def fetch (c : Cursor) : Option Row × Cursor :=
  (c.pending.head?, { c with pending := c.pending.tail })

/-- All remaining rows, and the cursor without them. -/
def fetchAll (c : Cursor) : List Row × Cursor := (c.pending, { c with pending := [] })

end Cursor

end BoundSql.Engine
