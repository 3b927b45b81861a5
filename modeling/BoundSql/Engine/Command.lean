/-
  Commands, as they are written.

  A command is a SELECT, perhaps united with others, one of the three
  statements that write, a setting that is asked for, or nothing at all.
  `Select.checkShape` says which SELECTs can be united.
-/
import BoundSql.Clause
import BoundSql.Engine.Term

namespace BoundSql.Engine

/-! ## Parts -/

/-- A table that a command names. -/
structure TableName where
  schema : Option String := none
  name : String
  /-- The name that the table is given within the command. -/
  given : Option String := none
deriving DecidableEq

namespace TableName

/-- The name of the table with its schema. -/
def text (t : TableName) : String := ((t.schema.map (· ++ ".")).getD "") ++ t.name

/-- The name of the table within the command. -/
def visible (t : TableName) : String := t.given.getD t.name

/-- The name of the table in messages, which is the given one if there is one. -/
def shown (t : TableName) : String := t.given.getD t.text

end TableName

/-- An entry of a SELECT. -/
inductive Item where
  /-- All columns. -/
  | all
  /-- All columns of the table of a name. -/
  | allOf (table : String)
  /-- A term, which may be given a name, and its text. -/
  | term (e : Term) (given : Option String) (text : String)

/-- Something to order by. -/
structure OrderTerm (α : Type) where
  value : α
  direction : Direction
  nullsFirst : Bool

/-- Which part of the rows is asked for. -/
structure Page (α : Type) where
  limit : α
  offset : Option α := none

/-- The part of a SELECT that reads a table. -/
structure Core where
  distinct : Bool := false
  items : List Item
  table : Option TableName := none
  filter : Option Term := none
  orderBy : List (OrderTerm Term) := []
  page : Option (Page Term) := none

/-- A SELECT with those united with it, each with whether repeated rows stay. -/
structure Select where
  first : Core
  more : List (Bool × Core) := []

/-- A command. -/
inductive Command where
  | nothing
  | select (s : Select)
  | insert (replace : Bool) (table : TableName) (columns : List String) (rows : List (List Term))
  | update (table : TableName) (sets : List (String × Term)) (filter : Option Term)
  | delete (table : TableName) (filter : Option Term)
  | setting (name : String)

instance : Inhabited Command := ⟨.nothing⟩

/-! ## Unions -/

/-- The word between united SELECTs. -/
def unionWord (all : Bool) : String := if all then "UNION ALL" else "UNION"

namespace Select

/-- The parts in front of each word that unites, the last one first, with that
    word. -/
def fronts (s : Select) : List (Core × Bool) :=
  ((s.first :: s.more.map Prod.snd).zip (s.more.map Prod.fst)).reverse

/-- The clause of a part that has to follow all unions. -/
def lateClause? (q : Core) : Option String :=
  if !q.orderBy.isEmpty then some "ORDER BY" else q.page.map fun _ => "LIMIT"

/-- Refuses an order or a limit in front of a union, and too many unions; of
    several faults the last in the text counts. -/
def checkShape (s : Select) : Except EngineFault Unit :=
  let clear := (s.fronts.takeWhile fun p => (lateClause? p.1).isNone).length
  let offender := (s.fronts.drop clear).head?
  let seen := 1 + clear + offender.toList.length
  if compoundLimit < seen then .error .tooManySelects
  else match offender.bind fun p => (lateClause? p.1).map (·, p.2) with
    | some (clause, all) => .error (.misplacedClause clause (unionWord all))
    | none => .ok ()

end Select

end BoundSql.Engine
