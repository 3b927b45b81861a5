/-
  Conditions of a WHERE clause.

  A `Filter` is a list of conditions, each with the link that joins it to the
  one before; a condition may itself be a group.  `Condition.render` and
  `Filter.render` write them with a placeholder for each value, and collect
  the values in the same order.

  * `Render` is the state of such writing: the values bound so far, which stay
    when writing fails;
  * a membership test without values and a nested group without conditions
    cannot be written;
  * the link of the first condition of a group is not written.
-/
import BoundSql.Error

namespace BoundSql

/-! ## Writing with placeholders -/

/-- Writing text while collecting bound values. -/
abbrev Render := ExceptT Misuse (StateM (List Value))

/-- The placeholder of a value, which is bound next. -/
def Render.bind (v : Value) : Render String := do
  modify (· ++ [v])
  return "?"

/-- The placeholders of several values. -/
def Render.bindAll (vs : List Value) : Render (List String) := vs.mapM Render.bind

/-- Writes after the values that are bound already. -/
def Render.runFrom {α : Type} (r : Render α) (bound : List Value) :
    Except Misuse α × List Value :=
  (ExceptT.run r).run bound

/-- Texts in parentheses. -/
def tuple (texts : List String) : String := "(" ++ ", ".intercalate texts ++ ")"

/-! ## Conditions -/

/-- How a condition is joined to the one before. -/
inductive Link where
  | and
  | or
deriving DecidableEq, Repr

/-- The word that joins a condition to the one before. -/
def Link.sql : Link → String
  | .and => "AND"
  | .or => "OR"

/-- A condition on rows. -/
inductive Condition where
  /-- A column compared with a value. -/
  | compare (column op : String) (v : Value)
  /-- Text of the caller with the values of its placeholders. -/
  | raw (sql : String) (bindings : List Value)
  | nullTest (column : String) (negated : Bool)
  | member (column : String) (values : List Value) (negated : Bool)
  | between (column : String) (low high : Value) (negated : Bool)
  /-- Conditions in parentheses. -/
  | group (nodes : List (Link × Condition))
deriving Inhabited

/-- Conditions in order, each with its link. -/
abbrev Filter := List (Link × Condition)

namespace Condition

/-- A column equal to a value. -/
def equals (column : String) (v : Value) : Condition := .compare column "=" v

/-- `NOT ` in front of a negated test. -/
def negation (negated : Bool) : String := if negated then "NOT " else ""

/-- The texts of conditions joined by their links. -/
def joinLinked : List (Link × String) → String
  | [] => ""
  | (_, text) :: rest => text ++ String.join (rest.map fun (l, t) => " " ++ l.sql ++ " " ++ t)

mutual

/-- The text of a condition. -/
def render : Condition → Render String
  | .compare column op v => do
    let mark ← Render.bind v
    return column ++ " " ++ op ++ " " ++ mark
  | .raw sql bindings => do
    let _ ← Render.bindAll bindings
    return sql
  | .nullTest column negated => return column ++ " IS " ++ negation negated ++ "NULL"
  | .member column values negated => do
    if values.isEmpty then throw .emptyMembership
    let marks ← Render.bindAll values
    return column ++ " " ++ negation negated ++ "IN " ++ tuple marks
  | .between column low high negated => do
    let low ← Render.bind low
    let high ← Render.bind high
    return column ++ " " ++ negation negated ++ "BETWEEN " ++ low ++ " AND " ++ high
  | .group nodes => do
    if nodes.isEmpty then throw .emptyGroup
    let texts ← renderNodes nodes
    return "(" ++ joinLinked texts ++ ")"

/-- The texts of the conditions of a group with their links. -/
def renderNodes : List (Link × Condition) → Render (List (Link × String))
  | [] => return []
  | n :: ns => do
    let text ← renderNode n
    return text :: (← renderNodes ns)

/-- The text of a condition with its link. -/
def renderNode : Link × Condition → Render (Link × String)
  | (link, c) => return (link, ← c.render)

end

end Condition

namespace Filter

/-- The text of a filter without parentheses. -/
def render (f : Filter) : Render String := return Condition.joinLinked (← Condition.renderNodes f)

/-- The WHERE clause, if there are conditions. -/
def renderClause (f : Filter) : Render (List String) :=
  if f.isEmpty then return [] else return ["WHERE " ++ (← f.render)]

end Filter

end BoundSql
