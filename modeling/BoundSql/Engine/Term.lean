/-
  Terms: what a command computes with, as it is written.

  * `Term` has literals, placeholders, names, operators and calls;
  * `Term.depth` is how deep a term is, which `Term.checked` keeps within the
    limit;
  * `Term.isFalse` and `Term.conjunction`: what is conjoined with a literal
    zero is not looked at any more.
-/
import BoundSql.Engine.Arithmetic
import BoundSql.Text.Scan

namespace BoundSql.Engine

/-! ## Operators -/

/-- The comparisons of two values. -/
inductive Comparison where
  | eq
  | ne
  | lt
  | le
  | gt
  | ge
deriving DecidableEq

/-- Whether two values in the given order meet the comparison. -/
def Comparison.holds : Comparison → Ordering → Bool
  | .eq, o => o == .eq
  | .ne, o => o != .eq
  | .lt, o => o == .lt
  | .le, o => o != .gt
  | .gt, o => o == .gt
  | .ge, o => o != .lt

/-- The operators in front of a term. -/
inductive Unary where
  | not
  | plus
  | minus
  | complement
deriving DecidableEq

/-- The operators between two terms. -/
inductive Binary where
  | and
  | or
  | compare (c : Comparison)
  /-- Whether both are the same, null being the same as null. -/
  | is (negated : Bool)
  | calculate (op : Operation)
  | concat
deriving DecidableEq

/-! ## Names -/

/-- The name of a column that is read, or of what else may have a name. -/
structure ColumnName where
  /-- What stands in front of the name, with dots in between. -/
  qualifiers : List String := []
  name : String
  /-- The quote around the name, if there is one. -/
  quote : Option Char := none
  /-- The number of bytes in front of all of it. -/
  offset : Nat
deriving DecidableEq

/-- The name with its qualifiers. -/
def ColumnName.text (n : ColumnName) : String := ".".intercalate (n.qualifiers ++ [n.name])

/-- A name that is called. -/
structure FunctionName where
  name : String
  offset : Nat
deriving DecidableEq

/-! ## Terms -/

/-- A term as it is written. -/
inductive Term where
  | literal (c : Cell)
  | truth (b : Bool)
  /-- A decimal integer of any size. -/
  | natural (n : Nat) (offset : Option Nat)
  /-- A hexadecimal integer. -/
  | hexadecimal (text : String) (offset : Nat)
  /-- A placeholder, counted from 0. -/
  | param (index : Nat)
  | name (n : ColumnName)
  | unary (op : Unary) (e : Term)
  | binary (op : Binary) (a b : Term)
  | isNull (e : Term) (negated : Bool)
  | within (e : Term) (list : List Term)
  | between (e low high : Term)
  | cast (a : Affinity) (e : Term)
  /-- A choice: conditions, each with what it leads to, and what is left. -/
  | choice (list : List Term)
  /-- A call for each distinct value of its arguments, or for each row. -/
  | call (f : FunctionName) (distinct : Bool) (arguments : List Term)
  /-- A call with a star in place of arguments. -/
  | callStar (f : FunctionName)

namespace Term

instance : Inhabited Term := ⟨.literal .null⟩

/-! ## Depth -/

mutual

/-- The number of operators from a term down to its deepest leaf, the leaf
    included.  The bounds of BETWEEN do not count. -/
def depth : Term → Nat
  | .literal _ | .truth _ | .natural .. | .hexadecimal .. | .param _ | .name _ => 1
  | .unary _ e | .isNull e _ | .between e _ _ | .cast _ e => e.depth + 1
  | .binary _ a b => max a.depth b.depth + 1
  | .within e list => max e.depth (depthOfAll list) + 1
  | .choice list | .call _ _ list => depthOfAll list + 1
  | .callStar _ => 1

/-- The depth of the deepest of some terms. -/
def depthOfAll : List Term → Nat
  | [] => 0
  | e :: es => max e.depth (depthOfAll es)

end

/-- A term, unless it is too deep. -/
def checked (e : Term) : Except EngineFault Term :=
  if e.depth ≤ depthLimit then .ok e else .error .expressionTooDeep

/-! ## Literals -/

/-- The value of the digits of a hexadecimal integer. -/
def hexNumber (text : String) : Nat :=
  (text.toList.drop 2).foldl (fun n c => 16 * n + (Text.hexValue? c).getD 0) 0

/-- The value of an integer of 31 bits that is written as such, perhaps with
    signs in front, and the number of bytes in front of its digits. -/
def number? : Term → Option (Int × Option Nat)
  | .natural n offset => small n offset
  | .hexadecimal text offset => small (hexNumber text) offset
  | .unary .plus e => e.number?
  | .unary .minus e => e.number?.map fun p => (-p.1, p.2)
  | _ => none
where
  /-- A number, if it is small enough. -/
  small (n : Nat) (offset : Option Nat) : Option (Int × Option Nat) :=
    if n < Nat.pow 2 31 then some (n, offset) else none

/-- Whether a term is false as it stands. -/
def isFalse : Term → Bool
  | .natural n _ => n = 0
  | .hexadecimal text _ => hexNumber text = 0
  | .truth b => !b
  | _ => false

/-- The conjunction of two terms.  If one is false as it stands, so is the
    whole, whatever the other is. -/
def conjunction (a b : Term) : Term :=
  if a.isFalse || b.isFalse then .natural 0 none else .binary .and a b

/-- A term with a sign in front.  A second sign takes the place of a plus. -/
def signed (op : Unary) : Term → Term
  | .unary .plus e => .unary op e
  | e => .unary op e

/-- The denial of a term, if it is to be denied. -/
def negatedIf (negated : Bool) (e : Term) : Term := if negated then .unary .not e else e

example : (Term.binary .concat (.natural 1 none) (.unary .minus (.natural 2 none))).depth = 3 := by
  decide +kernel
example : hexNumber "0x1F" = 31 := by decide +kernel

end Term

end BoundSql.Engine
