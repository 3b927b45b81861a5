/-
  Connections to the embedded engine that open when they are first used.

  * `Opened` is an open database with the statement prepared last;
  * `Lazy` has a configuration and opens with it; an attempt that fails leaves
    it unopened, and the next use tries again;
  * `engine` answers the calls of the library.
-/
import BoundSql.Connection
import BoundSql.Engine.Files
import BoundSql.Engine.Cursor

namespace BoundSql.Engine

/-! ## Open databases -/

/-- An open database with its current statement. -/
structure Opened where
  store : Store := {}
  program : Program := {}
  cursor : Cursor := {}

namespace Opened

/-- Answers a call. -/
def answer (o : Opened) : (c : Call) → Outcome Opened c.Reply
  | .prepare sql =>
    match o.store.prepare sql with
    | .ok p => { result := .ok (), next := { o with program := p, cursor := {} } }
    | .error e => { result := .error (.engine e), next := o }
  | .bind position v kind =>
    match o.program.bind position (.ofValue v kind) with
    | .ok p => { result := .ok (), next := { o with program := p } }
    | .error e => { result := .error (.engine e), next := o }
  | .execute =>
    let (ran, store) := o.store.run o.program
    let (outcome, cursor) := o.cursor.load ran
    { result := outcome, next := { o with store := store, cursor := cursor } }
  | .fetch =>
    let (row, cursor) := o.cursor.fetch
    { result := .ok row, next := { o with cursor := cursor } }
  | .fetchAll =>
    let (rows, cursor) := o.cursor.fetchAll
    { result := .ok rows, next := { o with cursor := cursor } }
  | .rowCount => { result := .ok o.cursor.affected, next := o }
  | .lastInsertId => { result := .ok (toString o.store.lastKey.toInt), next := o }

end Opened

/-! ## Opening on first use -/

/-- A connection that may not be open yet. -/
structure Lazy where
  config : Config := {}
  files : Files := {}
  opened : Option Opened := none

namespace Lazy

/-- A connection to a database in memory that is open from the start. -/
def alreadyOpen : Lazy := { opened := some {} }

/-- Whether the database has been opened. -/
def isOpen (l : Lazy) : Bool := l.opened.isSome

/-- Opens the database of the configuration. -/
def connect (l : Lazy) : Except EngineFault (Opened × List Event) := do
  match l.config.path with
  | none => return ({ store := { readOnly := l.config.readOnly } }, [.openedInMemory])
  | some path =>
    let location ← Location.read l.config.access path
    let database ← l.files.locate path location
    return ({ store := { database, readOnly := location.isReadOnly } },
      [.openedFile path l.config.readOnly])

/-- Uses the database, after opening it if need be. -/
def use {α : Type} (l : Lazy) (work : Opened → Outcome Opened α) : Outcome Lazy α :=
  let go (o : Opened) (events : List Event) : Outcome Lazy α :=
    let out := work o
    { result := out.result, events := events ++ out.events,
      next := { l with opened := some out.next } }
  match l.opened with
  | some o => go o []
  | none =>
    match l.connect with
    | .ok (o, events) => go o events
    | .error e => { result := .error (.engine e), next := l }

/-- Opens the database if it is not open. -/
def ensureOpen (l : Lazy) : Outcome Lazy Unit := l.use fun o => { result := .ok (), next := o }

/-- Creates a table. -/
def createTable (t : Table) (l : Lazy) : Outcome Lazy Unit :=
  l.use fun o =>
    match o.store.createTable t with
    | .ok store => { result := .ok (), next := { o with store := store } }
    | .error e => { result := .error (.engine e), next := o }

/-- The number of placeholders of the current statement. -/
def paramCount (l : Lazy) : Nat := (l.opened.map (·.program.paramCount)).getD 0

/-- The files after the connection is closed. -/
def close (l : Lazy) : Files :=
  match l.opened, l.config.path with
  | some o, some path => l.files.save path l.config.access o.store.database
  | _, _ => l.files

/-- An unopened connection in place of this one. -/
def reopen (config : Config) (l : Lazy) : Lazy := { config, files := l.close }

end Lazy

/-- The connection that opens on first use. -/
def engine : Connection Lazy where
  answer c l := l.use fun o => o.answer c

end BoundSql.Engine
