/-
  Events of the log.

  An event says what has happened; `target`, `level` and `fields` are the
  record that is written of it.
-/
import BoundSql.Query.Render
import BoundSql.Text.Cut

namespace BoundSql

/-- How important an event is. -/
inductive Level where
  | debug
  | info
deriving DecidableEq, Repr

/-- The word for a level. -/
def Level.name : Level → String
  | .debug => "DEBUG"
  | .info => "INFO"

/-- What a record holds under a name. -/
inductive FieldValue where
  | text (s : String)
  | count (n : Nat)
  | flag (b : Bool)
deriving DecidableEq, Repr

/-- What has happened. -/
inductive Event where
  /-- A statement is about to be prepared. -/
  | preparing (kind : StatementKind) (statement : Statement)
  /-- A query was shown. -/
  | dumped (snapshot : Query.Snapshot)
  /-- A pool wrote its rows. -/
  | flushed (table : String) (rows affected : Nat)
  | openedInMemory
  | openedFile (path : String) (readOnly : Bool)

namespace Event

/-- The number of bytes of a statement that the log shows. -/
def shownBytes : Nat := 200

/-- The part of the library that an event comes from. -/
def target : Event → String
  | .preparing .. => "chainsql.sql"
  | .dumped _ => "chainsql.qb"
  | .flushed .. => "chainsql.pool"
  | .openedInMemory | .openedFile .. => "chainsql.sqlite"

/-- The level of an event. -/
def level : Event → Level
  | .preparing .. | .flushed .. | .openedInMemory => .debug
  | .dumped _ | .openedFile .. => .info

/-- The fields of a record; the message, if there is one, is the last. -/
def fields : Event → List (String × FieldValue)
  | .preparing kind statement =>
    let shown := Text.cut shownBytes statement.sql
    [("kind", .text kind.name), ("param_count", .count statement.bindings.length),
      ("truncated", .flag (shown.utf8ByteSize < statement.sql.utf8ByteSize)), ("sql", .text shown)]
  | .dumped s =>
    [("kind", .text s.kind.name), ("sql", .text s.statement.sql),
      ("bindings", .text s.statement.bindingsJson.print), ("message", .text "query dump")]
  | .flushed table rows affected =>
    [("table", .text table), ("rows", .count rows), ("affected", .count affected),
      ("message", .text "flushed insert pool")]
  | .openedInMemory => [("message", .text "opened in-memory sqlite database")]
  | .openedFile path readOnly =>
    [("path", .text path), ("read_only", .flag readOnly),
      ("message", .text "opened sqlite database")]

end Event

end BoundSql
