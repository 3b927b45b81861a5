/-
  Expressions: terms whose names are resolved.

  * `Environment` holds what an expression is evaluated in: the bound cells, a
    row, and the rows that functions of all rows are taken of;
  * `Expression.eval` gives the cell; truth is three-valued, null being
    unknown;
  * `Expression.aggregations` are the functions of all rows in an expression.
-/
import BoundSql.Engine.Aggregate
import BoundSql.Engine.Pattern
import BoundSql.Engine.Term

namespace BoundSql.Engine

/-! ## Truth -/

/-- Conjunction with an unknown. -/
def andTruth : Option Bool → Option Bool → Option Bool
  | some false, _ | _, some false => some false
  | some true, some true => some true
  | _, _ => none

/-- Negation with an unknown. -/
def notTruth (t : Option Bool) : Option Bool := t.map (!·)

/-- Disjunction with an unknown. -/
def orTruth (t u : Option Bool) : Option Bool := notTruth (andTruth (notTruth t) (notTruth u))

/-! ## Expressions -/

/-- An expression.  Columns are counted from the key, which is the first. -/
inductive Expression where
  | literal (c : Cell)
  /-- What has no meaning, although all names are known. -/
  | unusable (fault : EngineFault)
  | param (index : Nat)
  | column (index : Nat)
  | unary (op : Unary) (e : Expression)
  | binary (op : Binary) (a b : Expression)
  | isNull (e : Expression) (negated : Bool)
  /-- Whether the truth of an expression is known and is the given one. -/
  | isTruth (e : Expression) (value negated : Bool)
  | within (e : Expression) (list : List Expression)
  | between (e low high : Expression)
  | cast (a : Affinity) (e : Expression)
  | like (pattern e : Expression)
  /-- A choice: conditions, each with what it leads to, and what is left. -/
  | choice (list : List Expression)
  /-- The largest or smallest of some cells, none of which may be null. -/
  | bestOf (best : Ordering) (list : List Expression)
  | overAll (f : Aggregate) (distinct : Bool) (e : Expression)
deriving BEq

instance : Inhabited Expression := ⟨.literal .null⟩

/-- What an expression is evaluated in. -/
structure Environment where
  params : Array Cell := #[]
  /-- The cells of the row, the key first; there is not always a row. -/
  row : List Cell := []
  /-- The rows that the functions of all rows are taken of. -/
  group : List (List Cell) := []

/-- Cells without those that occurred before. -/
def withoutRepeats (cells : List Cell) : List Cell :=
  cells.eraseDupsBy fun a b => a.order b == .eq

namespace Binary

/-- The operator on two cells, the comparisons under an affinity. -/
def eval (op : Binary) (a : Affinity) (x y : Cell) : Cell :=
  match op with
  | .and => .ofTruth (andTruth x.truth? y.truth?)
  | .or => .ofTruth (orTruth x.truth? y.truth?)
  | .compare c => .ofTruth ((a.compare? x y).map c.holds)
  | .is negated =>
    .ofTruth (some ((match a.compare? x y with
      | some o => o == .eq
      | none => x.isNull && y.isNull) != negated))
  | .calculate op => op.eval x y
  | .concat => Engine.concat x y

end Binary

namespace Unary

/-- The operator on a cell. -/
def eval (op : Unary) (x : Cell) : Cell :=
  match op with
  | .not => .ofTruth (notTruth x.truth?)
  | .plus => x
  | .minus => Engine.negate x
  | .complement => Engine.complement x

end Unary

/-- The best of cells that are not null, a later one among equals for the
    smallest. -/
def bestOf (best : Ordering) (cells : List Cell) : Cell :=
  if cells.any Cell.isNull then .null
  else match cells with
    | [] => .null
    | c :: cs => cs.foldl (fun m c =>
        let o := c.order m
        if o == best || (best == .lt && o == .eq) then c else m) c

namespace Expression

/-- The type that an expression prefers: that of its column, or of its cast. -/
def affinity? : Expression → Option Affinity
  | .column 0 => some .integer
  | .column _ => some .blob
  | .cast a _ => some a
  | _ => none

/-- What two expressions agree on when they are compared. -/
def agreed (a b : Expression) : Affinity := .common a.affinity? b.affinity?

/-- The cells that a function of all rows is taken of, where `cell` gives that
    of a row. -/
def arguments (group : List (List Cell)) (distinct : Bool) (cell : List Cell → Cell) : List Cell :=
  if distinct then withoutRepeats (group.map cell) else group.map cell

/-- A function of all rows, null where it has no value. -/
def overall (f : Aggregate) (cells : List Cell) : Cell :=
  match f.eval cells with
  | .ok c => c
  | .error _ => .null

mutual

/-- The cell that an expression stands for. -/
def eval (env : Environment) : Expression → Cell
  | .literal c => c
  | .unusable _ => .null
  | .param i => env.params[i]?.getD .null
  | .column i => env.row[i]?.getD .null
  | .unary op e => op.eval (e.eval env)
  | .binary op a b => op.eval (a.agreed b) (a.eval env) (b.eval env)
  | .isNull e negated => .ofTruth (some ((e.eval env).isNull != negated))
  | .isTruth e value negated =>
    .ofTruth (some (((e.eval env).truth? == some value) != negated))
  | .within e list =>
    .ofTruth (isAmong env (e.affinity?.getD .blob) (e.eval env) (some false) list)
  | .between e low high =>
    let x := e.eval env
    .ofTruth (andTruth
      (((e.agreed low).compare? x (low.eval env)).map Comparison.ge.holds)
      (((e.agreed high).compare? x (high.eval env)).map Comparison.le.holds))
  | .cast a e => a.cast (e.eval env)
  | .like pattern e => Pattern.like (pattern.eval env) (e.eval env)
  | .choice list => choose env list
  | .bestOf best list => Engine.bestOf best (evalAll env list)
  | .overAll f distinct e =>
    overall f (arguments env.group distinct fun row => e.eval { env with row })

/-- The cells that some expressions stand for. -/
def evalAll (env : Environment) : List Expression → List Cell
  | [] => []
  | e :: es => e.eval env :: evalAll env es

/-- The cell that a choice leads to. -/
def choose (env : Environment) : List Expression → Cell
  | condition :: e :: rest =>
    if (condition.eval env).truth? == some true then e.eval env else choose env rest
  | [e] => e.eval env
  | [] => .null

/-- Whether a cell is among those of a list, after what is known of those in
    front; one cannot tell if there is a null. -/
def isAmong (env : Environment) (a : Affinity) (x : Cell) (found : Option Bool) :
    List Expression → Option Bool
  | [] => found
  | e :: es => isAmong env a x (orTruth found ((a.compare? x (e.eval env)).map (· == .eq))) es

end

/-- Whether an expression holds for sure. -/
def holds (env : Environment) (e : Expression) : Bool := (e.eval env).truth? == some true

/-! ## Functions of all rows -/

/-- A function of all rows, and what it is taken of. -/
structure Aggregation where
  function : Aggregate
  distinct : Bool
  argument : Expression
deriving BEq

mutual

/-- The functions of all rows in an expression. -/
def aggregations : Expression → List Aggregation
  | .literal _ | .unusable _ | .param _ | .column _ => []
  | .unary _ e | .isNull e _ | .isTruth e _ _ | .cast _ e => e.aggregations
  | .binary _ a b => a.aggregations ++ b.aggregations
  | .within e list => e.aggregations ++ aggregationsOfAll list
  | .between e low high => e.aggregations ++ low.aggregations ++ high.aggregations
  | .like pattern e => pattern.aggregations ++ e.aggregations
  | .bestOf _ list | .choice list => aggregationsOfAll list
  | .overAll f distinct e => [⟨f, distinct, e⟩]

/-- The functions of all rows in some expressions. -/
def aggregationsOfAll : List Expression → List Aggregation
  | [] => []
  | e :: es => e.aggregations ++ aggregationsOfAll es

end

mutual

/-- What keeps an expression from having a meaning, from left to right. -/
def faults : Expression → List EngineFault
  | .literal _ | .param _ | .column _ => []
  | .unusable fault => [fault]
  | .unary _ e | .isNull e _ | .isTruth e _ _ | .cast _ e | .overAll _ _ e => e.faults
  | .binary _ a b => a.faults ++ b.faults
  | .within e list => e.faults ++ faultsOfAll list
  | .between e low high => e.faults ++ low.faults ++ high.faults
  | .like pattern e => pattern.faults ++ e.faults
  | .bestOf _ list | .choice list => faultsOfAll list

/-- What keeps some expressions from having a meaning. -/
def faultsOfAll : List Expression → List EngineFault
  | [] => []
  | e :: es => e.faults ++ faultsOfAll es

end

/-- The cells that a function of all rows is taken of, with repeated ones. -/
def Aggregation.cells (env : Environment) (c : Aggregation) : List Cell :=
  env.group.map fun row => c.argument.eval { env with row }

/-- What keeps a function of all rows from having a value. -/
def Aggregation.fault? (env : Environment) (c : Aggregation) : Option EngineFault :=
  match c.function.eval (if c.distinct then withoutRepeats (c.cells env) else c.cells env) with
  | .ok _ => none
  | .error fault => some fault

end Expression

end BoundSql.Engine
