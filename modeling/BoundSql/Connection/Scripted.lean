/-
  A connection that answers from a script.

  Executing makes the rows of the script the result; the calls that the script
  names fail.
-/
import BoundSql.Connection

namespace BoundSql

/-- A failure that a script prescribes for a call, or for the binding of one
    position only. -/
structure ScriptedFailure where
  call : String
  position : Option Nat
  error : Error

/-- What a connection is to answer. -/
structure Script where
  rows : List Row := []
  affected : Nat := 0
  lastInsertId : String := ""
  failures : List ScriptedFailure := []

/-- Whether the failure is prescribed for the call. -/
def ScriptedFailure.concerns (f : ScriptedFailure) (c : Call) : Bool :=
  f.call == c.name &&
    match c, f.position with
    | .bind position .., some p => position == p
    | _, _ => true

/-- A script and the rows of the result not fetched yet. -/
structure Scripted where
  script : Script
  pending : List Row := []

/-- What a call gives when it does not fail. -/
def Scripted.answer (s : Scripted) : (c : Call) → Outcome Scripted c.Reply
  | .prepare _ | .bind .. => { result := .ok (), next := s }
  | .execute => { result := .ok (), next := { s with pending := s.script.rows } }
  | .fetch => { result := .ok s.pending.head?, next := { s with pending := s.pending.tail } }
  | .fetchAll => { result := .ok s.pending, next := { s with pending := [] } }
  | .rowCount => { result := .ok s.script.affected, next := s }
  | .lastInsertId => { result := .ok s.script.lastInsertId, next := s }

/-- The connection that follows its script. -/
def scripted : Connection Scripted where
  answer c s :=
    match s.script.failures.find? (·.concerns c) with
    | some f => { result := .error f.error, next := s }
    | none => s.answer c

end BoundSql
