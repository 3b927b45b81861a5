/-
  What can go wrong, by cause.

  * `Misuse`: a call or a query that breaks a rule of the builder;
  * `DecodeFault`: a value that is not of the type asked for;
  * `Error` gathers them with the faults of the database engine, and with the
    failures that a connection reports in words of its own;
  * `Error.message` holds all wording, `Error.isConfig` and `isExecution` the
    two families that callers tell apart.
-/
import BoundSql.Value
import BoundSql.Text.Utf8
import BoundSql.Engine.Fault

namespace BoundSql

/-- What a statement does. -/
inductive StatementKind where
  | select
  | insert
  | update
  | delete
  | replace
deriving DecidableEq, Repr, Inhabited

/-- The word for a kind of statement. -/
def StatementKind.name : StatementKind → String
  | .select => "select"
  | .insert => "insert"
  | .update => "update"
  | .delete => "delete"
  | .replace => "replace"

/-! ## Causes -/

/-- A broken rule of the builder. -/
inductive Misuse where
  /-- A membership test without values. -/
  | emptyMembership
  /-- A nested group without conditions. -/
  | emptyGroup
  /-- A query without a table. -/
  | noTable (kind : StatementKind)
  /-- A statement that writes, without data; the verb is that of its text. -/
  | noData (verb : String)
  /-- Data for a query that takes none. -/
  | dataUnavailable (kind : StatementKind)
  /-- A batch without rows. -/
  | noRows
  /-- A row of a batch, counted from 1, with columns of its own. -/
  | rowMismatch (row : Nat) (columns : List String)
  | orderDirection (text : String)
  | negativeLimit
  | negativeOffset
  /-- A member of a union that is not a SELECT. -/
  | memberKind (kind : StatementKind)
  | poolWithoutTable
  | poolWithoutColumns
  | poolWithoutRoom
  | poolRowMismatch (columns : List String)
  /-- A cause in words given from outside. -/
  | reported (message : String)
deriving DecidableEq

/-- Why a value is not of the type asked for. -/
inductive DecodeFault where
  | noColumn
  | notInteger (v : Value)
  | outOfRange (n : Int64)
  | notNumber (v : Value)
  | notBoolean (v : Value)
  | unexpectedNull
  | notText (m : Utf8.Malformed)
  /-- A cause in words given from outside. -/
  | reported (message : String)
deriving DecidableEq

/-- A failure of the library. -/
inductive Error where
  | config (cause : Misuse)
  | execution (message : String)
  | engine (fault : EngineFault)
  | decode (column : String) (fault : DecodeFault)
deriving DecidableEq

/-! ## Wording -/

/-- The words for a broken rule. -/
def Misuse.message : Misuse → String
  | .emptyMembership => "WHERE IN values cannot be empty"
  | .emptyGroup => "Nested WHERE group cannot be empty"
  | .noTable kind => "No table specified for " ++ kind.name ++ " query"
  | .noData verb => "No data provided for " ++ verb
  | .dataUnavailable kind => "Method data() not available for " ++ kind.name ++ " queries"
  | .noRows => "No rows provided for batch insert"
  | .rowMismatch row columns =>
    "Row " ++ toString row ++ " does not match columns (" ++ ", ".intercalate columns ++ ")"
  | .orderDirection text => "Invalid order direction: " ++ text
  | .negativeLimit => "Limit must be non-negative"
  | .negativeOffset => "Offset must be non-negative"
  | .memberKind kind => "UNION requires a select query, got " ++ kind.name
  | .poolWithoutTable => "No table specified for insert pool"
  | .poolWithoutColumns => "Insert pool needs at least one column"
  | .poolWithoutRoom => "Insert pool size must be positive"
  | .poolRowMismatch columns =>
    "Row does not match pool columns (" ++ ", ".intercalate columns ++ ")"
  | .reported message => message

/-- The words for a value of another type. -/
def DecodeFault.message : DecodeFault → String
  | .noColumn => "column not found"
  | .notInteger v => "expected integer, got " ++ v.quoted
  | .outOfRange n => "integer " ++ toString n.toInt ++ " out of range for i32"
  | .notNumber v => "expected number, got " ++ v.quoted
  | .notBoolean v => "expected boolean, got " ++ v.quoted
  | .unexpectedNull => "unexpected NULL"
  | .notText m => "invalid UTF-8: " ++ m.message
  | .reported message => message

namespace Error

/-- The text of a failure: its family, then its cause. -/
def message : Error → String
  | .config cause => "Configuration error: " ++ cause.message
  | .execution message => "Execution error: " ++ message
  | .engine fault => "SQLite error: " ++ fault.message
  | .decode column fault => "Decode error on column '" ++ column ++ "': " ++ fault.message

/-- Misuse, found without touching a database. -/
def isConfig : Error → Bool
  | .config _ => true
  | _ => false

/-- Reported while a statement was prepared or run. -/
def isExecution : Error → Bool
  | .execution _ | .engine _ => true
  | _ => false

end Error

end BoundSql
