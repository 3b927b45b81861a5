/-
  Commands read from text.

  `Command.read` gives the command and the number of its placeholders.  A text
  ends with its first semicolon, and a command has to fill it.
-/
import BoundSql.Engine.Command
import BoundSql.Engine.Term.Reader

namespace BoundSql.Engine

namespace Reading

/-! ## Tables and clauses -/

/-- The name of a table, perhaps with that of its schema. -/
def qualifiedTable : Reading TableName := do
  let first ← name
  if ← acceptSymbol "." then return { schema := some first, name := ← name }
  else return { name := first }

/-- A table that is changed, which is given another name only after AS. -/
def changedTable : Reading TableName := do
  let t ← qualifiedTable
  if ← acceptKeyword "as" then return { t with given := some (← name) } else return t

/-- The name that is given to what stands in front of it, if there is one. -/
def given? : Reading (Option String) := do
  if ← acceptKeyword "as" then return some (← name)
  else return (← accept? Token.isAlias).map Token.value

/-- A condition after WHERE, if there is one. -/
def filter : Reading (Option Term) := do
  if ← acceptKeyword "where" then return some (← term) else return none

/-- Something to order by. -/
def orderTerm : Reading (OrderTerm Term) := do
  let e ← term
  let (direction, nullsFirst) ← direction
  return ⟨e, direction, nullsFirst⟩

/-- The order that is asked for. -/
def order : Reading (List (OrderTerm Term)) := do
  if ← acceptKeyword "order" then
    expectKeyword "by"
    commas orderTerm
  else return []

/-- The part of the rows that is asked for; the offset follows, or comes first
    with a comma. -/
def page : Reading (Option (Page Term)) := do
  if ← acceptKeyword "limit" then
    let e ← term
    if ← acceptKeyword "offset" then return some ⟨e, some (← term)⟩
    else if ← acceptSymbol "," then return some ⟨← term, some e⟩
    else return some ⟨e, none⟩
  else return none

/-! ## SELECT -/

/-- An entry of a SELECT. -/
def item : Reading Item := do
  if ← acceptSymbol "*" then return .all
  else
    match (← get).tokens with
    | t :: dot :: star :: _ =>
      if t.isQualifier && dot.isSymbol "." && star.isSymbol "*" then
        skip 3
        return .allOf t.value
      else single t
    | t :: _ => single t
    | [] => unexpected
where
  /-- A term, from its first token on. -/
  single (t : Token) : Reading Item := do
    let e ← term
    let text ← textFrom t
    return .term e (← given?) text

/-- The part of a SELECT that reads a table. -/
def core : Reading Core := do
  expectKeyword "select"
  let distinct ← acceptKeyword "distinct"
  unless distinct do
    let _ ← acceptKeyword "all"
  let items ← commas item
  let table ← if ← acceptKeyword "from" then some <$> table else pure none
  return { distinct, items, table, filter := ← filter, orderBy := ← order, page := ← page }
where
  /-- A table that is read, which may be given another name. -/
  table : Reading TableName := do
    let t ← qualifiedTable
    return { t with given := ← given? }

/-- The SELECTs united with one, after those that are read already, the last of
    which comes first; `fuel` bounds their number. -/
def unions (read : List (Bool × Core)) : Nat → Reading (List (Bool × Core))
  | 0 => return read.reverse
  | fuel + 1 => do
    if ← acceptKeyword "union" then
      let all ← acceptKeyword "all"
      unions ((all, ← core) :: read) fuel
    else return read.reverse

/-- A SELECT. -/
def select : Reading Select := do return { first := ← core, more := ← unions [] (← fuel) }

/-! ## Commands -/

/-- What follows INSERT or REPLACE. -/
def insert (replace : Bool) : Reading Command := do
  expectKeyword "into"
  let table ← changedTable
  let columns ← parenthesised name
  expectKeyword "values"
  return .insert replace table columns (← commas (parenthesised term))

/-- A column and the value that it is given. -/
def assignment : Reading (String × Term) := do
  let column ← name
  unless ← acceptSymbol "==" do expectSymbol "="
  return (column, ← term)

/-- What follows UPDATE. -/
def update : Reading Command := do
  if ← acceptKeyword "or" then unexpected
  let table ← changedTable
  expectKeyword "set"
  let sets ← commas assignment
  return .update table sets (← filter)

/-- A command. -/
def command : Reading Command := do
  match ← peek with
  | none => return .nothing
  | some t =>
    if t.isKeyword "select" then return .select (← select)
    else if ← acceptKeyword "insert" then insert false
    else if ← acceptKeyword "replace" then insert true
    else if ← acceptKeyword "update" then update
    else if ← acceptKeyword "delete" then
      expectKeyword "from"
      let table ← changedTable
      return .delete table (← filter)
    else if ← acceptKeyword "pragma" then return .setting (← name)
    else unexpected

end Reading

namespace Command

/-- Whether the parts of a command fit together. -/
def checkShape : Command → Except EngineFault Unit
  | .select s => s.checkShape
  | .update _ sets _ =>
    if columnLimit < sets.length then .error (.tooManyColumns "set list") else .ok ()
  | _ => .ok ()

/-- The command that a text writes, and the number of its placeholders. -/
def read (text : String) : Except EngineFault (Command × Nat) := do
  let (command, rest) ← Reading.command.run { text, tokens := Token.scan text }
  match rest.tokens with
  | [] => pure ()
  | t :: _ => unless t.isSymbol ";" do throw (Reading.faultAt text t)
  match rest.fault with
  | some fault => throw fault
  | none => command.checkShape
  return (command, rest.params)

end Command

end BoundSql.Engine
