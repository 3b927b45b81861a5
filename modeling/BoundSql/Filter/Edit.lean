/-
  Calls that build a filter.

  A call is a `FilterEdit`; `FilterEdit.run` gives its outcome and the filter
  after it.

  * most calls add a condition as it is; a membership test is checked first;
  * a nested call builds a group of its own: `nested` passes over the calls in
    it that fail, `tryNested` stops at the first and then adds nothing.
-/
import BoundSql.Condition

namespace BoundSql

/-- A call on a filter. -/
inductive FilterEdit where
  /-- Adds a condition. -/
  | add (link : Link) (c : Condition)
  /-- Adds a membership test, which needs values. -/
  | member (link : Link) (column : String) (values : List Value) (negated : Bool)
  /-- Adds a group, without the calls in it that fail. -/
  | nested (link : Link) (edits : List FilterEdit)
  /-- Adds a group unless a call in it fails. -/
  | tryNested (link : Link) (edits : List FilterEdit)
  /-- Removes every condition. -/
  | clear

namespace FilterEdit

mutual

/-- The outcome of a call and the filter after it. -/
def run : FilterEdit → Filter → Except Misuse Unit × Filter
  | .add link c, f => (.ok (), f ++ [(link, c)])
  | .member link column values negated, f =>
    if values.isEmpty then (.error .emptyMembership, f)
    else (.ok (), f ++ [(link, .member column values negated)])
  | .nested link edits, f => (.ok (), f ++ [(link, .group (runSkipping edits []))])
  | .tryNested link edits, f =>
    match runStopping edits [] with
    | (.ok (), g) => (.ok (), f ++ [(link, .group g)])
    | (.error e, _) => (.error e, f)
  | .clear, _ => (.ok (), [])

/-- Runs calls in turn and passes over those that fail. -/
def runSkipping : List FilterEdit → Filter → Filter
  | [], f => f
  | e :: es, f => runSkipping es (e.run f).2

/-- Runs calls in turn up to the first that fails. -/
def runStopping : List FilterEdit → Filter → Except Misuse Unit × Filter
  | [], f => (.ok (), f)
  | e :: es, f =>
    match e.run f with
    | (.ok (), g) => runStopping es g
    | (.error m, g) => (.error m, g)

end

end FilterEdit

/-- The filter that calls build from nothing, without those that fail. -/
def Filter.ofEdits (edits : List FilterEdit) : Filter := FilterEdit.runSkipping edits []

end BoundSql
