/-
  Connections: who runs the statements.

  A connection answers calls, each of which may fail, and each of which may
  change the connection's state.  A statement is prepared, its values are
  bound by position, it is executed, and its rows are fetched; all calls
  between two `prepare` concern the same statement.

  * `Call.Reply` is what a call gives when it succeeds;
  * `Session` is the state of a connection together with the calls made and
    the events logged so far, and `Exec` is work in a session, which ends at
    the first failure.
-/
import BoundSql.Event
import BoundSql.Row

namespace BoundSql

/-! ## Calls -/

/-- What is asked of a connection. -/
inductive Call where
  | prepare (sql : String)
  /-- Binds a value to the placeholder at a position counted from 1. -/
  | bind (position : Nat) (v : Value) (kind : BindKind)
  | execute
  /-- The next row of the result. -/
  | fetch
  /-- All remaining rows of the result. -/
  | fetchAll
  /-- The number of rows that were written or returned. -/
  | rowCount
  /-- The identifier made by the last insertion. -/
  | lastInsertId
deriving DecidableEq

namespace Call

/-- What a call gives. -/
abbrev Reply : Call → Type
  | .prepare _ | .bind .. | .execute => Unit
  | .fetch => Option Row
  | .fetchAll => List Row
  | .rowCount => Nat
  | .lastInsertId => String

/-- The name of a call. -/
def name : Call → String
  | .prepare _ => "prepare"
  | .bind .. => "bind"
  | .execute => "execute"
  | .fetch => "fetch"
  | .fetchAll => "fetch_all"
  | .rowCount => "row_count"
  | .lastInsertId => "last_insert_id"

end Call

/-- The outcome of a call: what it gives, what it logs, the state after it. -/
structure Outcome (σ α : Type) where
  result : Except Error α
  events : List Event := []
  next : σ

/-- A connection with states in `σ`. -/
structure Connection (σ : Type) where
  answer : (c : Call) → σ → Outcome σ c.Reply

/-! ## Sessions -/

/-- A connection in use: its state, the calls made, the events logged. -/
structure Session (σ : Type) where
  state : σ
  calls : List Call := []
  log : List Event := []

/-- Work in a session. -/
abbrev Exec (σ : Type) := ExceptT Error (StateM (Session σ))

namespace Session

variable {σ α : Type}

/-- Logs an event. -/
def emit (e : Event) (s : Session σ) : Session σ := { s with log := s.log ++ [e] }

/-- Does work in a session. -/
def run (work : Exec σ α) (s : Session σ) : Except Error α × Session σ :=
  (ExceptT.run work).run s

end Session

namespace Exec

variable {σ α : Type}

/-- Logs an event. -/
def emit (e : Event) : Exec σ Unit := modify (Session.emit e)

/-- Goes on with what was computed without a connection. -/
def ofExcept (r : Except Error α) : Exec σ α :=
  match r with
  | .ok a => pure a
  | .error e => throw e

end Exec

/-- Makes a call, which is recorded whatever its outcome. -/
def Connection.call {σ : Type} (conn : Connection σ) (c : Call) : Exec σ c.Reply :=
  ExceptT.mk fun s =>
    let o := conn.answer c s.state
    (o.result, ⟨o.next, s.calls ++ [c], s.log ++ o.events⟩)

end BoundSql
