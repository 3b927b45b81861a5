/-
  The clauses of a statement besides WHERE, and what a statement is made of.

  * `Join`, `OrderTerm`, `Having` and their texts;
  * `Direction.read` reads `asc` and `desc` in any case;
  * `Clauses` holds everything that calls have configured, whatever the kind
    of the statement; a fresh one selects all columns of no table.
-/
import BoundSql.Assignments
import BoundSql.Condition

namespace BoundSql

/-! ## Joins -/

/-- Which rows a join keeps. -/
inductive JoinKind where
  | inner
  | left
  | right
  | cross
deriving DecidableEq, Repr

/-- The words of a join. -/
def JoinKind.sql : JoinKind → String
  | .inner => "INNER JOIN"
  | .left => "LEFT JOIN"
  | .right => "RIGHT JOIN"
  | .cross => "CROSS JOIN"

/-- What joined rows have in common. -/
structure JoinCondition where
  left : String
  op : String
  right : String
deriving DecidableEq, Repr

/-- A table that is joined. -/
structure Join where
  kind : JoinKind
  table : String
  on : Option JoinCondition
deriving DecidableEq, Repr

/-- The text of a join; a cross join has no condition. -/
def Join.sql (j : Join) : String :=
  let head := j.kind.sql ++ " " ++ j.table
  match j.kind, j.on with
  | .cross, _ | _, none => head
  | _, some c => head ++ " ON " ++ c.left ++ " " ++ c.op ++ " " ++ c.right

/-! ## Order -/

/-- Which way rows are ordered. -/
inductive Direction where
  | asc
  | desc
deriving DecidableEq, Repr, Inhabited

/-- The word for a direction. -/
def Direction.sql : Direction → String
  | .asc => "ASC"
  | .desc => "DESC"

/-- Whether two texts differ at most in the case of ASCII letters. -/
def sameIgnoringCase (s t : String) : Bool := s.toList.map Char.toLower == t.toList.map Char.toLower

/-- Reads a direction, in any case. -/
def Direction.read (text : String) : Except Misuse Direction :=
  if sameIgnoringCase text "asc" then .ok .asc
  else if sameIgnoringCase text "desc" then .ok .desc
  else .error (.orderDirection text)

/-- A column by which rows are ordered. -/
structure OrderTerm where
  column : String
  direction : Direction
deriving DecidableEq, Repr

/-- The text of a term of ORDER BY. -/
def OrderTerm.sql (o : OrderTerm) : String := o.column ++ " " ++ o.direction.sql

/-! ## Having -/

/-- The comparison that groups have to meet. -/
structure Having where
  column : String
  op : String
  value : Value
deriving DecidableEq

/-- The text of the comparison, with a placeholder. -/
def Having.render (h : Having) : Render String := do
  let mark ← Render.bind h.value
  return h.column ++ " " ++ h.op ++ " " ++ mark

/-! ## All clauses -/

/-- What has been configured for a statement. -/
structure Clauses where
  kind : StatementKind := .select
  columns : List String := ["*"]
  table : String := ""
  /-- The name of the table within the statement. -/
  tableAlias : Option String := none
  joins : List Join := []
  filter : Filter := []
  /-- The columns that an UPDATE sets. -/
  sets : Assignments := []
  /-- The first row that is inserted, which fixes the columns. -/
  firstRow : Assignments := []
  /-- The other rows, in the order of the columns. -/
  moreRows : List (List Value) := []
  orderBy : List OrderTerm := []
  groupBy : List String := []
  having : Option Having := none
  limit : Option Nat := none
  offset : Option Nat := none
  distinct : Bool := false
deriving Inhabited

end BoundSql
