/-
  Plans: commands whose names are resolved.

  * `Pass` reads one table, `Retrieval` is a whole SELECT, and `Plan` a whole
    command;
  * `Database.table?` finds a table, and `Database.plan` makes the plan of a
    command;
  * in a union, tables, and then the rest, are resolved from the last SELECT to
    the first.
-/
import BoundSql.Engine.Command
import BoundSql.Engine.Table

namespace BoundSql.Engine

/-! ## Plans -/

/-- A column of a result. -/
structure ResultColumn where
  name : String
  value : Expression

/-- One pass over a table, or one row where there is none. -/
structure Pass where
  distinct : Bool := false
  table : Option String := none
  columns : List ResultColumn
  filter : Option Expression := none
  orderBy : List (OrderTerm Expression) := []

/-- The functions of all rows in a pass. -/
def Pass.aggregations (p : Pass) : List Expression.Aggregation :=
  p.columns.flatMap (·.value.aggregations) ++ p.orderBy.flatMap (·.value.aggregations)

/-- What keeps expressions from being evaluated: the last fault among them,
    unless a function lacks its argument. -/
def lastFault? (list : List Expression) : Option EngineFault :=
  let faults := Expression.faultsOfAll list
  if faults.contains .distinctArgument then some .distinctArgument else faults.getLast?

/-- What keeps a pass from being made.  The order of the one row of functions of
    all rows makes no difference. -/
def Pass.fault? (p : Pass) : Option EngineFault :=
  let columns := p.columns.map ResultColumn.value
  let isOverAll := columns.any fun e => !e.aggregations.isEmpty
  lastFault? (p.filter.toList ++ columns ++
    if isOverAll then [] else p.orderBy.map OrderTerm.value)

/-- Passes that are united, each with whether repeated rows stay, the columns of
    the result that order it, and the part that is asked for. -/
structure Retrieval where
  first : Pass
  more : List (Bool × Pass) := []
  orderBy : List (OrderTerm Nat) := []
  page : Option (Page Expression) := none

/-- The names of the columns of the result. -/
def Retrieval.columns (r : Retrieval) : List String := r.first.columns.map ResultColumn.name

/-- What keeps a retrieval from being made. -/
def Retrieval.fault? (r : Retrieval) : Option EngineFault :=
  match lastFault? (r.page.toList.flatMap fun p => p.limit :: p.offset.toList) with
  | some fault => some fault
  | none => (r.first :: r.more.map Prod.snd).findSome? Pass.fault?

/-- A command that can be run. -/
inductive Plan where
  | nothing
  | retrieve (r : Retrieval)
  | insert (replace : Bool) (table : String) (placement : Placement) (rows : List (List Expression))
  | update (table : String) (sets : List (Nat × Expression)) (filter : Option Expression)
  | delete (table : String) (filter : Option Expression)
  | setting (name : String)

instance : Inhabited Plan := ⟨.nothing⟩

/-- What keeps a plan from being carried out. -/
def Plan.fault? : Plan → Option EngineFault
  | .nothing | .setting _ => none
  | .retrieve r => r.fault?
  | .insert _ _ _ rows => lastFault? rows.flatten
  | .update _ sets filter => lastFault? (filter.toList ++ sets.map Prod.snd)
  | .delete _ filter => lastFault? filter.toList

/-! ## Tables -/

/-- Tables, in the order of their creation. -/
structure Database where
  tables : List Table := []

namespace Database

/-- The table of a name, in any case. -/
def find? (d : Database) (name : String) : Option Table :=
  d.tables.find? fun t => sameIgnoringCase name t.name

/-- The database with a table in place of the one of that name. -/
def putTable (d : Database) (t : Table) : Database :=
  { d with tables := d.tables.map fun u => if u.name = t.name then t else u }

/-- The table that a command names. -/
def table? (d : Database) (name : TableName) : Except EngineFault Table :=
  let isHere := (name.schema.map (sameIgnoringCase Scope.schema)).getD true
  match if isHere then d.find? name.name else none with
  | some t => .ok t
  | none => .error (.noSuchTable name.text)

end Database

/-! ## One SELECT -/

/-- An entry of a SELECT after the stars are taken apart. -/
inductive Entry where
  | column (index : Nat)
  | term (e : Term) (given : Option String) (text : String)

/-- A SELECT with its table and entries. -/
structure Expanded where
  core : Core
  table : Option Table
  entries : List Entry

namespace Expanded

/-- All columns of the table of a name, or of the only one. -/
def star (visible : Option VisibleTable) (name : Option String) :
    Except EngineFault (List Entry) :=
  match visible, name with
  | none, none => .error .noTables
  | none, some name => .error (.noSuchTable name)
  | some t, name =>
    if (name.map (sameIgnoringCase t.name)).getD true then
      .ok ((List.range t.columns.length).map .column)
    else .error (.noSuchTable (name.getD ""))

/-- The table of a SELECT as it can be read. -/
def visible (core : Core) (table : Option Table) : Option VisibleTable :=
  table.map fun t => ⟨(core.table.map TableName.visible).getD t.name, t.allColumns⟩

/-- A SELECT with its table and entries. -/
def ofCore (d : Database) (core : Core) : Except EngineFault Expanded := do
  let table ← core.table.mapM d.table?
  let visible := visible core table
  let entries ← core.items.mapM fun
    | .all => star visible none
    | .allOf name => star visible (some name)
    | .term e given text => .ok [.term e given text]
  if columnLimit < entries.flatten.length then throw (.tooManyColumns "result set")
  return ⟨core, table, entries.flatten⟩

/-- Where the names in the entries are looked up. -/
def scope (text : String) (s : Expanded) : Scope :=
  { text, table := visible s.core s.table, use := .allowed }

/-- The name of a column of the table. -/
def columnName (s : Expanded) (index : Nat) : String :=
  ((s.table.map Table.allColumns).getD [])[index]?.getD ""

/-- An entry as a column of the result: under the given name, that of the
    column, or its text. -/
def resolve (text : String) (s : Expanded) : Entry → Except EngineFault ResultColumn
  | .column i => .ok ⟨s.columnName i, .column i⟩
  | .term e given shown => do
    let value ← e.resolve (s.scope text)
    let own :=
      match value with
      | .column i => s.columnName i
      | _ => shown
    return ⟨given.getD own, value⟩

/-- The entries that are given names, as they are used elsewhere. -/
def given (scope : Scope) (s : Expanded) : List (String × Except EngineFault Expression) :=
  s.entries.filterMap fun
    | .term e (some name) _ => some (name, e.resolve scope)
    | _ => none

/-- The number, from 0, of the entry that has a name of its own; those that a
    star stands for do. -/
def named? (s : Expanded) (e : Term) : Option Nat :=
  match e with
  | .name n =>
    if n.qualifiers.isEmpty then
      s.entries.findIdx? fun
        | .column i => sameIgnoringCase n.name (s.columnName i)
        | .term _ given _ => (given.map (sameIgnoringCase n.name)).getD false
    else none
  | _ => none

/-- The scope of the clauses, where functions of all rows have a use. -/
def clauseScope (text : String) (use : AggregateUse) (s : Expanded) : Scope :=
  let scope := { s.scope text with use }
  { scope with entries := s.given scope }

end Expanded

/-! ## Order -/

namespace OrderTerm

/-- The same order by something else. -/
def withValue {α β : Type} (t : OrderTerm α) (value : β) : OrderTerm β :=
  ⟨value, t.direction, t.nullsFirst⟩

end OrderTerm

namespace Expanded

/-- What a term orders by: a column of the result, by its given name or by its
    number from 1, or else an expression. -/
def orderValue (scope : Scope) (s : Expanded) (position : Nat) (e : Term) :
    Except EngineFault (Nat ⊕ Expression) :=
  match s.named? e, e.number? with
  | some i, _ => .ok (.inl i)
  | none, some (i, offset) =>
    if 1 ≤ i ∧ i ≤ 0xffff then .ok (.inl (i.toNat - 1))
    else .error (.orderOutOfRange position s.entries.length (offset.map (⟨scope.text, ·⟩)))
  | none, none => (e.resolve scope).map .inr

/-- The order of a SELECT that is united with no other. -/
def order (scope : Scope) (s : Expanded) (columns : List ResultColumn) :
    Except EngineFault (List (OrderTerm Expression)) := do
  let values ← s.core.orderBy.zipIdx.mapM fun (t, i) => s.orderValue scope (i + 1) t.value
  if columnLimit < values.length then throw (.tooManyTerms "ORDER BY")
  (s.core.orderBy.zip values).zipIdx.mapM fun ((t, value), i) =>
    match value with
    | .inr e => return t.withValue e
    | .inl n =>
      match columns[n]? with
      | some c => return t.withValue c.value
      | none => throw (.orderOutOfRange (i + 1) columns.length none)

/-- The number, from 0, of the column that a term orders united SELECTs by, as
    far as one of them shows it. -/
def orderColumn? (text : String) (s : Expanded) (columns : List ResultColumn) (position : Nat)
    (e : Term) : Except EngineFault (Option Nat) :=
  match e.number? with
  | some (i, offset) =>
    if 1 ≤ i ∧ i ≤ columns.length then .ok (some (i.toNat - 1))
    else .error (.orderOutOfRange position columns.length (offset.map (⟨text, ·⟩)))
  | none =>
    match s.named? e with
    | some n => .ok (some n)
    | none =>
      match e.resolve (s.clauseScope text .allowed) with
      | .error _ => .ok none
      | .ok value => .ok (columns.findIdx? fun c => c.value == value)

/-- The columns that order united SELECTs.  Each term is looked up in the
    SELECTs from the first to the last. -/
def unitedOrder (text : String) (parts : List (Expanded × List ResultColumn))
    (terms : List (OrderTerm Term)) : Except EngineFault (List (OrderTerm Nat)) := do
  if columnLimit < terms.length then throw (.tooManyTerms "ORDER BY")
  let found ← parts.foldlM (fun found (s, columns) =>
    (terms.zip found).zipIdx.mapM fun ((t, n), i) =>
      match n with
      | some n => return some n
      | none => s.orderColumn? text columns (i + 1) t.value) (terms.map fun _ => none)
  (terms.zip found).zipIdx.mapM fun ((t, n), i) =>
    match n with
    | some n => return t.withValue n
    | none => throw (.orderUnmatched (i + 1))

/-! ## Passes -/

/-- The pass of a SELECT, which is ordered if it is united with no other. -/
def pass (text : String) (single : Bool) (s : Expanded) : Except EngineFault Pass := do
  let columns ← s.entries.mapM (s.resolve text)
  let isOverAll := columns.any fun c => !c.value.aggregations.isEmpty
  let clause (use : AggregateUse) : Scope := s.clauseScope text use
  let filter ← s.core.filter.mapM fun e =>
    e.resolve (clause (if isOverAll then .early else .refused))
  let orderBy ← if single then
    s.order (clause (if isOverAll then .allowed else .early)) columns else pure []
  return {
    distinct := s.core.distinct
    table := s.table.map Table.name
    columns
    filter
    orderBy }

end Expanded

/-! ## Commands -/

namespace Database

/-- The part of the rows that is asked for, which depends on no names. -/
def page (text : String) (p : Page Term) : Except EngineFault (Page Expression) := do
  let limit ← p.limit.resolve { text }
  return ⟨limit, ← p.offset.mapM fun e => e.resolve { text }⟩

/-- The passes of united SELECTs, which are given from the last to the first,
    each with the word in front of it; all results have to be equally wide. -/
def passes (text : String) (single : Bool) :
    Option (Nat × Bool) → List Pass → List (Expanded × Option Bool) →
      Except EngineFault (List Pass)
  | _, done, [] => .ok done
  | next, done, (s, all) :: rest => do
    let p ← s.pass text single
    match next with
    | some (width, word) =>
      if p.columns.length ≠ width then throw (.unequalWidths (unionWord word))
    | none => pure ()
    passes text single (all.map (p.columns.length, ·)) (p :: done) rest

/-- The retrieval of a SELECT. -/
def retrieval (d : Database) (text : String) (s : Select) : Except EngineFault Retrieval := do
  let words := none :: s.more.map fun p => some p.1
  let cores := s.first :: s.more.map Prod.snd
  let expanded ← cores.reverse.mapM (Expanded.ofCore d)
  let last := (s.more.getLast?.map Prod.snd).getD s.first
  let page ← last.page.mapM (page text)
  let single := s.more.isEmpty
  match ← passes text single none [] (expanded.zip words.reverse) with
  | [] => throw .noTables
  | first :: more =>
    let parts := expanded.reverse.zip ((first :: more).map Pass.columns)
    let orderBy ← if single then pure [] else Expanded.unitedOrder text parts last.orderBy
    return { first, more := (s.more.map Prod.fst).zip more, orderBy, page }

/-- The plan of an insertion. -/
def insertion (d : Database) (text : String) (replace : Bool) (table : TableName)
    (columns : List String) (rows : List (List Term)) : Except EngineFault Plan := do
  let t ← d.table? table
  let places ← columns.mapM fun column =>
    match Scope.columnIn t.allColumns column with
    | some i => .ok i
    | none => .error (.noInsertColumn table.shown column)
  let rows ← rows.mapM fun row => row.mapM (Term.resolve { text })
  let width := (rows.head?.getD []).length
  if rows.any (·.length ≠ width) then throw .unequalRows
  if width ≠ columns.length then throw (.valueCount width columns.length)
  return .insert replace t.name (.ofColumns t.columns.length places) rows

/-- The plan of a command that is read from a text, before it is looked at as a
    whole. -/
def draft (d : Database) (text : String) : Command → Except EngineFault Plan
  | .nothing => .ok .nothing
  | .setting name => .ok (.setting name)
  | .select s => return .retrieve (← d.retrieval text s)
  | .insert replace table columns rows => d.insertion text replace table columns rows
  | .update table sets filter => do
    let t ← d.table? table
    let scope : Scope := { text, table := some ⟨table.visible, t.allColumns⟩ }
    let sets ← sets.mapM fun (column, e) => do
      let value ← e.resolve scope
      match Scope.columnIn t.allColumns column with
      | some i => return (i, value)
      | none => throw (.noUpdateColumn column)
    return .update t.name sets (← filter.mapM (Term.resolve scope))
  | .delete table filter => do
    let t ← d.table? table
    let scope : Scope := { text, table := some ⟨table.visible, t.allColumns⟩ }
    return .delete t.name (← filter.mapM (Term.resolve scope))

/-- The plan of a command that is read from a text. -/
def plan (d : Database) (text : String) (c : Command) : Except EngineFault Plan := do
  let plan ← d.draft text c
  match plan.fault? with
  | some fault => throw fault
  | none => return plan

end Database

end BoundSql.Engine
