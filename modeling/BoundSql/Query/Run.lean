/-
  Queries run on a connection.

  Every helper compiles a query, prepares its text, binds its values by
  position under their own kinds, and goes on from there; it stops at the
  first call that fails.

  * `prepare` and `execute` are the steps that all share;
  * `rows`, `first?`, `value?`, `pluck`, `pluckKeyed` fetch, `rowCount` and
    `insertGetId` ask what was written;
  * `exists?`, `aggregate?` and `count` run another query than the given one:
    `firstOnly`, `existence` and `aggregation` are these.
-/
import BoundSql.Connection
import BoundSql.Query.Count
import BoundSql.Query.Keyed

namespace BoundSql

/-- The functions that make one value of all rows. -/
inductive Aggregate where
  | count
  | max
  | min
  | avg
  | sum
deriving DecidableEq, Repr

/-- The name of a function in SQL. -/
def Aggregate.sql : Aggregate → String
  | .count => "COUNT"
  | .max => "MAX"
  | .min => "MIN"
  | .avg => "AVG"
  | .sum => "SUM"

namespace Query

/-! ## Queries that are run in place of others -/

/-- At most one row. -/
def firstOnly (q : Query) : Query := q.modify fun c => { c with limit := some 1 }

/-- At most one row, without its columns. -/
def existence (q : Query) : Query :=
  q.modify fun c => { c with columns := ["1"], limit := some 1 }

/-- One value made of a column. -/
def aggregation (f : Aggregate) (column : String) (q : Query) : Query :=
  q.modify fun c => { c with columns := [f.sql ++ "(" ++ column ++ ") as aggregate"] }

/-! ## Running -/

variable {σ : Type}

/-- Binds values to the placeholders from a position on. -/
def bindFrom (conn : Connection σ) (position : Nat) : List Value → Exec σ Unit
  | [] => return
  | v :: vs => do
    conn.call (.bind position v v.kind)
    bindFrom conn (position + 1) vs

/-- Compiles, prepares and binds. -/
def prepare (conn : Connection σ) (q : Query) : Exec σ Unit := do
  let s ← Exec.ofExcept (q.compile.mapError .config)
  Exec.emit (.preparing q.kind s)
  conn.call (.prepare s.sql)
  bindFrom conn 1 s.bindings

/-- Compiles, prepares, binds and executes. -/
def execute (conn : Connection σ) (q : Query) : Exec σ Unit := do
  q.prepare conn
  conn.call .execute

/-- Every row. -/
def rows (conn : Connection σ) (q : Query) : Exec σ (List Row) := do
  q.execute conn
  conn.call .fetchAll

/-- Every row, made into something else; the first row that cannot be decides. -/
def rowsAs {α : Type} (decode : Row → Except Error α) (conn : Connection σ) (q : Query) :
    Exec σ (List α) := do
  let rows ← q.rows conn
  Exec.ofExcept (rows.mapM decode)

/-- The first row, if there is one. -/
def first? (conn : Connection σ) (q : Query) : Exec σ (Option Row) := do
  q.firstOnly.execute conn
  conn.call .fetch

/-- The first row made into something else. -/
def firstAs? {α : Type} (decode : Row → Except Error α) (conn : Connection σ) (q : Query) :
    Exec σ (Option α) := do
  let row ← q.first? conn
  Exec.ofExcept (row.mapM decode)

/-- A column of the first row. -/
def value? (column : String) (conn : Connection σ) (q : Query) : Exec σ (Option Value) := do
  let row ← q.first? conn
  return row.bind (·.get? column)

/-- A column of every row that has it. -/
def pluck (column : String) (conn : Connection σ) (q : Query) : Exec σ (List Value) := do
  let rows ← q.rows conn
  return rows.filterMap (·.get? column)

/-- A column by another one. -/
def pluckKeyed (column key : String) (conn : Connection σ) (q : Query) :
    Exec σ (List (Value × Value)) := do
  let rows ← q.rows conn
  return keyed column key rows

/-- The number of rows written or returned. -/
def rowCount (conn : Connection σ) (q : Query) : Exec σ Nat := do
  q.execute conn
  conn.call .rowCount

/-- The identifier of the row that was inserted. -/
def insertGetId (conn : Connection σ) (q : Query) : Exec σ String := do
  q.execute conn
  conn.call .lastInsertId

/-- Whether there is a row. -/
def exists? (conn : Connection σ) (q : Query) : Exec σ Bool := do
  let rows ← q.existence.rows conn
  return !rows.isEmpty

/-- A value made of all rows; a null is none. -/
def aggregate? (f : Aggregate) (column : String) (conn : Connection σ) (q : Query) :
    Exec σ (Option Value) := do
  let v ← (q.aggregation f column).value? "aggregate" conn
  return Value.nonNull? v

/-- The number of rows, or of the values in a column. -/
def count (column : String) (conn : Connection σ) (q : Query) : Exec σ Int64 := do
  let v ← q.aggregate? .count column conn
  return (v.map Value.toCount).getD 0

/-- Shows the query in the log. -/
def dump (q : Query) : Exec σ Snapshot := do
  let s ← Exec.ofExcept (q.snapshot.mapError .config)
  Exec.emit (.dumped s)
  return s

end Query

end BoundSql
