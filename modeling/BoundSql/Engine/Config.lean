/-
  How a database is opened.

  A configuration is made by calls, of which the last on a matter decides.
  Two configurations are the same if they differ at most in how their paths
  are written.
-/
import BoundSql.Engine.Path
import BoundSql.Engine.Location

namespace BoundSql.Engine

/-- What is to be opened, and how. -/
structure Config where
  /-- The file; none is a database in memory, of this connection only. -/
  path : Option String := none
  readOnly : Bool := false
  /-- How many milliseconds a locked database is waited for; none is not to
      wait at all. -/
  busyTimeout : Option Nat := some 5000
  foreignKeys : Bool := true
deriving DecidableEq, Repr

/-- A call that configures. -/
inductive ConfigCall where
  | path (path : String)
  | inMemory
  | readOnly (b : Bool)
  | busyTimeout (milliseconds : Nat)
  | noBusyTimeout
  | foreignKeys (b : Bool)
deriving DecidableEq, Repr

namespace Config

/-- The configuration after a call. -/
def apply (c : Config) : ConfigCall → Config
  | .path path => { c with path := some path }
  | .inMemory => { c with path := none }
  | .readOnly b => { c with readOnly := b }
  | .busyTimeout milliseconds => { c with busyTimeout := some milliseconds }
  | .noBusyTimeout => { c with busyTimeout := none }
  | .foreignKeys b => { c with foreignKeys := b }

/-- The configuration that calls make of the default one. -/
def ofCalls (calls : List ConfigCall) : Config := calls.foldl apply {}

/-- Whether two configurations open the same file in the same way. -/
def same (c d : Config) : Bool :=
  samePath c.path d.path && { c with path := none } == { d with path := none }
where
  /-- Whether two files are the same, or neither is one. -/
  samePath : Option String → Option String → Bool
    | some p, some q => Path.same p.toUTF8.toList q.toUTF8.toList
    | none, none => true
    | _, _ => false

/-- The access that is granted. -/
def access (c : Config) : Access := if c.readOnly then .readOnly else .create

end Config

end BoundSql.Engine
