/-
  The text of a query and its bound values.

  * `Clauses.renderInsert`, `renderUpdate`, `renderDelete` and `renderSelect`
    write the four forms of statement, `Query.render` chooses among them and
    adds the members of a union;
  * `Query.compile` is the text with the values in the order of their
    placeholders, or the first rule that is broken;
  * `Query.snapshot` adds the kind, and has a JSON form.
-/
import BoundSql.Query

namespace BoundSql

namespace Clauses

/-! ## Statements that write -/

/-- INSERT or REPLACE with a tuple of placeholders for each row. -/
def renderInsert (c : Clauses) : Render String := do
  let verb := if c.kind = .replace then "REPLACE" else "INSERT"
  if c.firstRow.isEmpty then throw (.noData verb)
  let first ← Render.bindAll (c.firstRow.map Prod.snd)
  let more ← c.moreRows.mapM Render.bindAll
  return verb ++ " INTO " ++ c.table ++ " " ++ tuple c.firstRow.columns ++ " VALUES " ++
    ", ".intercalate ((first :: more).map tuple)

/-- The assignment of a column, with a placeholder. -/
def renderSet (e : String × Value) : Render String := do
  let mark ← Render.bind e.2
  return e.1 ++ " = " ++ mark

/-- UPDATE: the assignments, then the conditions. -/
def renderUpdate (c : Clauses) : Render String := do
  if c.sets.isEmpty then throw (.noData "UPDATE")
  let sets ← c.sets.mapM renderSet
  let filter ← c.filter.renderClause
  return " ".intercalate (("UPDATE " ++ c.table ++ " SET " ++ ", ".intercalate sets) :: filter)

/-- DELETE: the table, then the conditions. -/
def renderDelete (c : Clauses) : Render String := do
  let filter ← c.filter.renderClause
  return " ".intercalate (("DELETE FROM " ++ c.table) :: filter)

/-! ## SELECT -/

/-- A clause that lists something, if there is something to list. -/
def listClause (keyword : String) (items : List String) : List String :=
  if items.isEmpty then [] else [keyword ++ " " ++ ", ".intercalate items]

/-- A clause that holds one thing, if there is one. -/
def optionClause (keyword : String) (item : Option String) : List String :=
  item.toList.map (keyword ++ " " ++ ·)

/-- What precedes the conditions of a SELECT. -/
def selectHead (c : Clauses) : List String :=
  "SELECT" :: ((if c.distinct then ["DISTINCT"] else []) ++
    [", ".intercalate c.columns, "FROM " ++ c.table] ++ optionClause "AS" c.tableAlias ++
    c.joins.map Join.sql)

/-- What follows the groups of a SELECT. -/
def selectTail (c : Clauses) : List String :=
  listClause "ORDER BY" (c.orderBy.map OrderTerm.sql) ++
    optionClause "LIMIT" (c.limit.map toString) ++ optionClause "OFFSET" (c.offset.map toString)

/-- The HAVING clause, if there is one. -/
def renderHaving (c : Clauses) : Render (List String) :=
  match c.having with
  | none => return []
  | some h => return ["HAVING " ++ (← h.render)]

/-- The clauses of a SELECT, in order. -/
def renderSelect (c : Clauses) : Render (List String) := do
  let filter ← c.filter.renderClause
  let having ← c.renderHaving
  return c.selectHead ++ filter ++ listClause "GROUP BY" c.groupBy ++ having ++ c.selectTail

end Clauses

namespace Query

/-! ## Queries -/

/-- The word between united queries. -/
def unionKeyword (all : Bool) : String := if all then "UNION ALL" else "UNION"

mutual

/-- The text of a query. -/
def render : Query → Render String
  | ⟨c, members, all⟩ => do
    if c.table = "" then throw (.noTable c.kind)
    match c.kind with
    | .select => do
      let clauses ← c.renderSelect
      let unions ← renderMembers (unionKeyword all) members
      return " ".intercalate (clauses ++ unions)
    | .insert | .replace => c.renderInsert
    | .update => c.renderUpdate
    | .delete => c.renderDelete

/-- The members of a union, each after the word that unites it. -/
def renderMembers (keyword : String) : List Query → Render (List String)
  | [] => return []
  | q :: qs => do
    if q.clauses.kind ≠ .select then throw (.memberKind q.clauses.kind)
    let text ← q.render
    return (keyword ++ " " ++ text) :: (← renderMembers keyword qs)

end

end Query

/-- The text of a statement with its values in the order of the placeholders. -/
structure Statement where
  sql : String
  bindings : List Value
deriving DecidableEq

/-- What a piece of writing gives, starting without values. -/
def Render.finish (r : Render String) : Except Misuse Statement :=
  match r.runFrom [] with
  | (.ok sql, bindings) => .ok ⟨sql, bindings⟩
  | (.error e, _) => .error e

namespace Query

/-- The statement of a query. -/
def compile (q : Query) : Except Misuse Statement := q.render.finish

/-! ## Snapshots -/

/-- A query as it is shown. -/
structure Snapshot where
  statement : Statement
  kind : StatementKind

/-- The statement of a query with its kind. -/
def snapshot (q : Query) : Except Misuse Snapshot := q.compile.map (⟨·, q.kind⟩)

end Query

/-- Bound values as a JSON array. -/
def Statement.bindingsJson (s : Statement) : Json := .array (s.bindings.map Value.toJson)

/-- A snapshot as a JSON object. -/
def Query.Snapshot.toJson (s : Query.Snapshot) : Json :=
  .object [("sql", .string s.statement.sql), ("bindings", s.statement.bindingsJson),
    ("type", .string s.kind.name)]

end BoundSql
