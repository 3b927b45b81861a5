/-
  Calls that configure a query.

  A call is an `Edit`; `Edit.run` gives its outcome and the query after it.

  * a call that chooses the kind keeps the clauses of other kinds;
  * `Clauses.assignRows` is the data of several rows: the first row fixes the
    columns, and every other one has to have the same;
  * `Query.ofEdits` runs calls from a fresh query up to the first that fails.
-/
import BoundSql.Query
import BoundSql.Filter.Edit

namespace BoundSql

/-- A call on a query. -/
inductive Edit where
  /-- Chooses SELECT with columns; none are all columns. -/
  | select (columns : List String)
  | distinct
  /-- Chooses the table, under its own name. -/
  | source (name : String)
  /-- Chooses the table and its name in the statement; an empty one is none. -/
  | sourceAs (name tableAlias : String)
  | insert (table : String)
  | replace (table : String)
  | update (table : String)
  | delete (table : String)
  /-- Gives data to a statement that writes, by its kind. -/
  | data (entries : List (String × Value))
  | set (column : String) (v : Value)
  | setMany (entries : List (String × Value))
  /-- Gives the one row to be inserted. -/
  | values (entries : List (String × Value))
  /-- Gives the rows to be inserted. -/
  | valuesMany (rows : List (List (String × Value)))
  | innerJoin (table : String) (on : JoinCondition)
  | leftJoin (table : String) (on : JoinCondition)
  | rightJoin (table : String) (on : JoinCondition)
  | crossJoin (table : String)
  | groupBy (columns : List String)
  | having (h : Having)
  /-- Orders by a column, in a direction that is to be read. -/
  | orderBy (column direction : String)
  | orderByDirection (column : String) (direction : Direction)
  | limit (n : Int64)
  | offset (n : Int64)
  /-- Unites with the query that calls make of `base`. -/
  | union (all : Bool) (base : Query) (edits : List Edit)
  | filter (e : FilterEdit)
  | reset

/-! ## Data -/

namespace Clauses

/-- The clauses with one row to be inserted. -/
def assignRow (entries : List (String × Value)) (c : Clauses) : Clauses :=
  { c with firstRow := .ofEntries entries, moreRows := [] }

/-- The clauses with values for the columns of an UPDATE. -/
def assignSets (entries : List (String × Value)) (c : Clauses) : Clauses :=
  { c with sets := c.sets.setAll entries }

/-- Rows in the order of the columns; `row` is the number of the first. -/
def alignRows (columns : List String) (row : Nat) :
    List (List (String × Value)) → Except Misuse (List (List Value))
  | [] => .ok []
  | entries :: rest =>
    match (Assignments.ofEntries entries).align? columns with
    | none => .error (.rowMismatch row columns)
    | some values => (alignRows columns (row + 1) rest).map (values :: ·)

/-- The clauses with several rows to be inserted. -/
def assignRows (rows : List (List (String × Value))) (c : Clauses) : Except Misuse Clauses :=
  match rows with
  | [] => .error .noRows
  | first :: rest =>
    let firstRow := Assignments.ofEntries first
    (alignRows firstRow.columns 2 rest).map fun moreRows =>
      { c with firstRow := firstRow, moreRows := moreRows }

/-- The clauses with data for their kind. -/
def assignData (entries : List (String × Value)) (c : Clauses) : Except Misuse Clauses :=
  match c.kind with
  | .insert | .replace => .ok (c.assignRow entries)
  | .update => .ok (c.assignSets entries)
  | kind => .error (.dataUnavailable kind)

/-- The clauses of another kind of statement on a table. -/
def switch (kind : StatementKind) (table : String) (c : Clauses) : Clauses :=
  { c with kind := kind, table := table }

/-- The clauses with one more join. -/
def addJoin (kind : JoinKind) (table : String) (on : Option JoinCondition) (c : Clauses) :
    Clauses :=
  { c with joins := c.joins ++ [⟨kind, table, on⟩] }

end Clauses

/-! ## Running -/

namespace Edit

/-- A change that cannot fail. -/
def change (f : Clauses → Clauses) (q : Query) : Except Misuse Unit × Query := (.ok (), q.modify f)

/-- A change that leaves the query alone when it fails. -/
def tryChange (f : Clauses → Except Misuse Clauses) (q : Query) : Except Misuse Unit × Query :=
  match f q.clauses with
  | .ok c => (.ok (), { q with clauses := c })
  | .error e => (.error e, q)

/-- A bound that must not be negative. -/
def bound (n : Int64) (misuse : Misuse) : Except Misuse Nat :=
  if n.toInt < 0 then .error misuse else .ok n.toInt.toNat

mutual

/-- The outcome of a call and the query after it. -/
def run : Edit → Query → Except Misuse Unit × Query
  | .select columns, q => change (fun c =>
      { c with kind := .select, columns := if columns.isEmpty then ["*"] else columns }) q
  | .distinct, q => change (fun c => { c with distinct := true }) q
  | .source name, q => change (fun c => { c with table := name, tableAlias := none }) q
  | .sourceAs name tableAlias, q => change (fun c =>
      { c with table := name, tableAlias := if tableAlias = "" then none else some tableAlias }) q
  | .insert table, q => change (·.switch .insert table) q
  | .replace table, q => change (·.switch .replace table) q
  | .update table, q => change (·.switch .update table) q
  | .delete table, q => change (·.switch .delete table) q
  | .data entries, q => tryChange (·.assignData entries) q
  | .set column v, q => change (fun c => { c with sets := c.sets.set column v }) q
  | .setMany entries, q => change (·.assignSets entries) q
  | .values entries, q => change (·.assignRow entries) q
  | .valuesMany rows, q => tryChange (·.assignRows rows) q
  | .innerJoin table on, q => change (·.addJoin .inner table on) q
  | .leftJoin table on, q => change (·.addJoin .left table on) q
  | .rightJoin table on, q => change (·.addJoin .right table on) q
  | .crossJoin table, q => change (·.addJoin .cross table none) q
  | .groupBy columns, q => change (fun c => { c with groupBy := c.groupBy ++ columns }) q
  | .having h, q => change (fun c => { c with having := some h }) q
  | .orderBy column direction, q => tryChange (fun c => do
      let direction ← Direction.read direction
      return { c with orderBy := c.orderBy ++ [⟨column, direction⟩] }) q
  | .orderByDirection column direction, q => change (fun c =>
      { c with orderBy := c.orderBy ++ [⟨column, direction⟩] }) q
  | .limit n, q => tryChange (fun c => do
      let n ← bound n .negativeLimit
      return { c with limit := some n }) q
  | .offset n, q => tryChange (fun c => do
      let n ← bound n .negativeOffset
      return { c with offset := some n }) q
  | .union all base edits, q =>
    match runStopping edits base with
    | (.ok (), member) => (.ok (), ⟨q.clauses, q.members ++ [member], all⟩)
    | (.error e, _) => (.error e, q)
  | .filter e, q =>
    let (outcome, f) := e.run q.clauses.filter
    (outcome, q.modify fun c => { c with filter := f })
  | .reset, _ => (.ok (), .fresh)

/-- Runs calls in turn up to the first that fails. -/
def runStopping : List Edit → Query → Except Misuse Unit × Query
  | [], q => (.ok (), q)
  | e :: es, q =>
    match e.run q with
    | (.ok (), q) => runStopping es q
    | (.error m, q) => (.error m, q)

end

end Edit

/-- The query that calls make of a fresh one, or the failure of the first that
    fails. -/
def Query.ofEdits (edits : List Edit) : Except Misuse Query :=
  match Edit.runStopping edits .fresh with
  | (.ok (), q) => .ok q
  | (.error e, _) => .error e

end BoundSql
