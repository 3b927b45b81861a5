/-
  Queries: clauses, and the members of a union.

  A query holds whatever calls have configured, also clauses that its kind
  does not use.  All unions of a query are of one sort, that of the last call.
-/
import BoundSql.Clause

namespace BoundSql

/-- Clauses with the queries that are united with them. -/
structure Query where
  clauses : Clauses
  members : List Query
  /-- Whether unions keep repeated rows. -/
  unionAll : Bool

namespace Query

/-- A query as it begins: all columns of no table. -/
def fresh : Query := ⟨{}, [], false⟩

instance : Inhabited Query := ⟨fresh⟩

/-- What the query does. -/
def kind (q : Query) : StatementKind := q.clauses.kind

/-- The query with other clauses. -/
def modify (f : Clauses → Clauses) (q : Query) : Query := { q with clauses := f q.clauses }

end Query

end BoundSql
