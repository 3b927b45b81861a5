/-
  Databases in use, and the commands that run on them.

  * `Program` is a prepared command with the cells bound so far; `bind`
    refuses positions that are none;
  * `Ran` is what running gives: a number of changed rows, or the rows of a
    result and how it ended;
  * `Store.prepare` prepares a command, `Store.run` runs it.
-/
import BoundSql.Engine.Command.Reader
import BoundSql.Engine.Result

namespace BoundSql.Engine

/-! ## Prepared commands -/

/-- A prepared command with the cells bound to its placeholders. -/
structure Program where
  plan : Plan := .nothing
  bound : Array Cell := #[]

namespace Program

/-- The number of placeholders. -/
def paramCount (p : Program) : Nat := p.bound.size

/-- Binds a cell to a placeholder, counted from 1. -/
def bind (position : Nat) (c : Cell) (p : Program) : Except EngineFault Program :=
  if 1 ≤ position ∧ position ≤ p.paramCount then
    .ok { p with bound := p.bound.setIfInBounds (position - 1) c }
  else .error .bindPosition

end Program

/-! ## Running -/

/-- What running a command gives. -/
inductive Ran where
  /-- A command without a result, with the number of changed rows. -/
  | changed (n : Nat)
  /-- A command without a result that was refused. -/
  | refused (fault : EngineFault)
  /-- The rows of a result in the order in which they come, and what ended
      them early, if anything did. -/
  | result (columns : List String) (rows : List (List Cell)) (fault : Option EngineFault)

/-- A database in use. -/
structure Store where
  database : Database := {}
  readOnly : Bool := false
  /-- The key of the row inserted last. -/
  lastKey : Int64 := 0

namespace Store

/-- Prepares a command; its placeholders are null at first. -/
def prepare (s : Store) (text : String) : Except EngineFault Program := do
  let (command, params) ← Command.read text
  return ⟨← s.database.plan text command, Array.replicate params .null⟩

/-- The rows that a pass reads, or one without columns. -/
def found (s : Store) (p : Pass) : List (List Cell) :=
  match p.table with
  | none => [[]]
  | some name => ((s.database.find? name).map fun t => t.records.map Record.allCells).getD []

/-- The table that a plan changes, unless the database may only be read. -/
def changing (s : Store) (name : String) : Except EngineFault Table :=
  if s.readOnly then .error .readOnly else s.database.table? { name }

/-- A change of a table. -/
def changeTable (s : Store) (name : String)
    (change : Table → Except EngineFault (Table × Nat)) : Ran × Store :=
  match s.changing name >>= change with
  | .error e => (.refused e, s)
  | .ok (t, n) => (.changed n, { s with database := s.database.putTable t })

/-- Inserts rows.  A refused row undoes those before it, but not the key of
    the last of them. -/
def insertRows (s : Store) (replace : Bool) (name : String) (p : Placement)
    (rows : List (List Cell)) : Ran × Store :=
  match s.changing name with
  | .error e => (.refused e, s)
  | .ok t =>
    match Insertion.run replace p rows ⟨t, s.lastKey, 0⟩ with
    | (.error e, i) => (.refused e, { s with lastKey := i.lastKey })
    | (.ok (), i) =>
      (.changed i.count, { s with database := s.database.putTable i.table, lastKey := i.lastKey })

/-- Runs a prepared command. -/
def run (s : Store) (p : Program) : Ran × Store :=
  match p.plan with
  | .nothing => (.changed 0, s)
  | .setting name => (.result [name] [[.integer 1]] none, s)
  | .retrieve r =>
    match r.rows p.bound s.found with
    | .ok rows => (.result r.columns (rows.rows.map ResultRow.cells) rows.fault, s)
    | .error e => (.result r.columns [] (some e), s)
  | .insert replace table placement rows =>
    s.insertRows replace table placement
      (rows.map (List.map (Expression.eval { params := p.bound })))
  | .update table sets filter => s.changeTable table fun t => t.update p.bound sets filter
  | .delete table filter => s.changeTable table fun t => .ok (t.delete p.bound filter)

/-- Creates a table. -/
def createTable (s : Store) (t : Table) : Except EngineFault Store :=
  match s.database.find? t.name with
  | some _ => .error (.tableExists t.name t.namePlace)
  | none =>
    if s.readOnly then .error .readOnly
    else .ok { s with database := { s.database with tables := s.database.tables ++ [t] } }

end Store

end BoundSql.Engine
