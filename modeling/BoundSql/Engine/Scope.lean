/-
  Names resolved.

  * `Scope` is what names can stand for: the columns of a table, and what the
    entries of a SELECT are named;
  * `Scope.column?` finds a column, `Scope.lookup` whatever has a name;
  * `Callee` is what a call stands for;
  * `Term.resolve` gives the expression of a term.
-/
import BoundSql.Engine.Expression

namespace BoundSql.Engine

/-- Whether functions of all rows can be used. -/
inductive AggregateUse where
  | allowed
  /-- In front of where there are all rows. -/
  | early
  | refused
deriving DecidableEq

/-- The columns that can be read, under the name of their table. -/
structure VisibleTable where
  name : String
  /-- The columns, the key first. -/
  columns : List String

/-- What names can stand for. -/
structure Scope where
  /-- The command. -/
  text : String
  table : Option VisibleTable := none
  /-- The entries that are given names, in case they have a meaning here. -/
  entries : List (String × Except EngineFault Expression) := []
  use : AggregateUse := .refused

namespace Scope

/-! ## Columns -/

/-- The schema of all tables. -/
def schema : String := "main"

/-- The names of the key of every table. -/
def keyNames : List String := ["rowid", "oid", "_rowid_"]

/-- The place of a column among columns. -/
def columnIn (columns : List String) (name : String) : Option Nat :=
  match columns.findIdx? (sameIgnoringCase name) with
  | some i => some i
  | none => if keyNames.any (sameIgnoringCase name) then some 0 else none

/-- The column that a name stands for. -/
def column? (s : Scope) (n : ColumnName) : Option Nat :=
  s.table.bind fun t =>
    let fits :=
      match n.qualifiers with
      | [] => true
      | [table] => sameIgnoringCase table t.name
      | [schema, table] => sameIgnoringCase schema Scope.schema && sameIgnoringCase table t.name
      | _ => false
    if fits then columnIn t.columns n.name else none

/-! ## Names -/

/-- The truth value that a word is. -/
def truth? (n : ColumnName) : Option Bool :=
  if !n.qualifiers.isEmpty || n.quote.isSome then none
  else if sameIgnoringCase n.name "true" then some true
  else if sameIgnoringCase n.name "false" then some false
  else none

/-- The column or entry of a name. -/
def find? (s : Scope) (n : ColumnName) : Option (Except EngineFault Expression) :=
  match s.column? n with
  | some i => some (.ok (.column i))
  | none =>
    if n.qualifiers.isEmpty then (s.entries.find? (sameIgnoringCase n.name ·.1)).map Prod.snd
    else none

/-- What a name stands for.  In double quotes, what is no name is text. -/
def lookup (s : Scope) (n : ColumnName) : Except EngineFault Expression :=
  match s.find? n with
  | some r => r
  | none =>
    if n.qualifiers.isEmpty && n.quote = some '"' then .ok (.literal (.ofText n.name))
    else match truth? n with
      | some b => .ok (.literal (.ofTruth (some b)))
      | none => .error (.noSuchColumn n.text ⟨s.text, n.offset⟩)

/-! ## Literals -/

/-- A decimal integer, which is a number of floating point if it is too large. -/
def natural (n : Nat) : Cell :=
  if n < Nat.pow 2 63 then .integer (Int64.ofNat n)
  else .ofBinary64 (RealText.read (toString n).toList).value

/-- A hexadecimal integer, which gives the bits; with a minus in front, its
    negative has to fit. -/
def hexadecimal (s : Scope) (negated : Bool) (text : String) (offset : Nat) : Expression :=
  let n := Term.hexNumber text
  let c := .integer (Int64.ofNat n)
  if n < Nat.pow 2 64 && !(negated && n = Nat.pow 2 63) then
    .literal (if negated then negate c else c)
  else .unusable (.hexTooBig (if negated then "-" ++ text else text) ⟨s.text, offset⟩)

/-- The number that is written with a minus in front. -/
def negative? (s : Scope) : Term → Option Expression
  | .natural n _ =>
    some (.literal (if n = Nat.pow 2 63 then .integer (Int64.ofInt (-Nat.pow 2 63)) else
      match natural n with
      | .real x => .real x.neg
      | c => negate c))
  | .literal (.real x) => some (.literal (.real x.neg))
  | .hexadecimal text offset => some (s.hexadecimal true text offset)
  | _ => none

end Scope

/-! ## Calls -/

/-- What a name that is called stands for. -/
inductive Callee where
  | countRows
  | overAll (f : Aggregate)
  | bestOf (best : Ordering)
  | like

namespace Callee

/-- What a name stands for with a number of arguments, or with a star. -/
def ofName (text : String) (f : FunctionName) (arguments : Option Nat) :
    Except EngineFault Callee :=
  let place : Place := ⟨text, f.offset⟩
  match Aggregate.ofName? f.name, arguments with
  | none, some 2 =>
    if sameIgnoringCase f.name "like" then .ok .like else .error (.noSuchFunction f.name place)
  | none, _ => .error (.noSuchFunction f.name place)
  | some .count, none | some .count, some 0 => .ok .countRows
  | some function, some 1 => .ok (.overAll function)
  | some .min, some (_ + 2) => .ok (.bestOf .lt)
  | some .max, some (_ + 2) => .ok (.bestOf .gt)
  | some _, _ => .error (.argumentCount f.name place)

/-- Whether all rows are needed. -/
def isOverAll : Callee → Bool
  | .countRows | .overAll _ => true
  | .bestOf _ | .like => false

/-- The expression of a call. -/
def apply (c : Callee) (distinct : Bool) (arguments : List Expression) : Expression :=
  match c, arguments with
  | .countRows, _ =>
    .overAll .count false (if distinct then .unusable .distinctArgument else .literal (.integer 1))
  | .overAll f, argument :: _ => .overAll f distinct argument
  | .bestOf best, arguments => .bestOf best arguments
  | .like, pattern :: e :: _ => .like pattern e
  | _, _ => .literal .null

end Callee

namespace Scope

/-- What a call stands for, if it can be used here. -/
def callee (s : Scope) (f : FunctionName) (arguments : Option Nat) :
    Except EngineFault Callee := do
  let place : Place := ⟨s.text, f.offset⟩
  let callee ← Callee.ofName s.text f arguments
  match callee.isOverAll, s.use with
  | true, .early => throw (.misusedAggregate f.name place)
  | true, .refused => throw (.misusedFunction f.name place)
  | _, _ => return callee

/-- The scope of the arguments of a call: there are no functions of all rows of
    what is such a function. -/
def inside (s : Scope) (callee : Except EngineFault Callee) : Scope :=
  match callee with
  | .ok c => if c.isOverAll then { s with use := .refused } else s
  | .error _ => s

end Scope

/-! ## Terms -/

/-- Resolving terms.  After the fault of a call, which is the state, names are
    still looked up in its arguments and behind it, up to the next operator or
    literal; of several faults, the last one is reported. -/
abbrev Resolving := StateT (Option EngineFault) (Except EngineFault)

namespace Resolving

/-- Goes no further if there is a fault. -/
def settle : Resolving Unit := do
  match ← get with
  | some fault => throw fault
  | none => return

/-- Goes on after a fault. -/
def attempt {α : Type} (default : α) (work : Resolving α) : Resolving α := fun state =>
  match work.run state with
  | .ok r => .ok r
  | .error fault => .ok (default, some fault)

/-- A result, unless it is a fault, which is kept. -/
def keep {α : Type} (default : α) (r : Except EngineFault α) : Resolving α :=
  match r with
  | .ok a => return a
  | .error fault => do
    set (some fault)
    return default

end Resolving

namespace Term

open Resolving

mutual

/-- The expression of a term. -/
def walk (s : Scope) : Term → Resolving Expression
  | .name n => liftM (s.lookup n)
  | .literal c => do
    settle
    return .literal c
  | .truth b => do
    settle
    return .literal (.ofTruth (some b))
  | .natural n _ => do
    settle
    return .literal (Scope.natural n)
  | .hexadecimal text offset => do
    settle
    return s.hexadecimal false text offset
  | .param i => do
    settle
    return .param i
  | .unary op e => do
    settle
    match op, s.negative? e with
    | .minus, some number => return number
    | _, _ => return .unary op (← e.walk s)
  | .binary (.is negated) a (.name n) =>
    match s.find? n, Scope.truth? n with
    | none, some b => return .isTruth (← a.walk s) b negated
    | _, _ => do
      let y ← liftM (s.lookup n)
      settle
      return .binary (.is negated) (← a.walk s) y
  | .binary (.is negated) a (.truth b) => do
    settle
    return .isTruth (← a.walk s) b negated
  | .binary op a b => do
    settle
    return .binary op (← a.walk s) (← b.walk s)
  | .isNull e negated => return .isNull (← attempt default (e.walk s)) negated
  | .within e list => do
    settle
    return .within (← e.walk s) (← walkAll s [] list)
  | .between e low high => do
    settle
    return .between (← e.walk s) (← low.walk s) (← high.walk s)
  | .cast a e => do
    settle
    return .cast a (← e.walk s)
  | .choice list => do
    settle
    return .choice (← walkAll s [] list)
  | .call f distinct list => do
    let callee := s.callee f (some list.length)
    let c ← keep .countRows callee
    return c.apply distinct (← attempt [] (walkAll (s.inside callee) [] list))
  | .callStar f => do
    let c ← keep .countRows (s.callee f none)
    return c.apply false []

/-- The expressions of terms, after those that are resolved already, the last of
    which comes first. -/
def walkAll (s : Scope) (done : List Expression) : List Term → Resolving (List Expression)
  | [] => return done.reverse
  | e :: es => do
    let x ← e.walk s
    walkAll s (x :: done) es

end

/-- The expression of a term, unless there is a fault in it. -/
def resolve (s : Scope) (e : Term) : Except EngineFault Expression := do
  let (x, fault) ← (e.walk s).run none
  match fault with
  | some fault => throw fault
  | none => return x

end Term

end BoundSql.Engine
