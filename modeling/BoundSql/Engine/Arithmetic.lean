/-
  Calculations with cells.

  A calculation with null gives null.  Integers are calculated with as such
  for as long as the result fits; otherwise both sides become numbers of
  floating point.  Whatever has no value, such as a division by zero, is null.
-/
import BoundSql.Engine.Affinity

namespace BoundSql.Engine

/-- The operations on two numbers. -/
inductive Operation where
  | add
  | sub
  | mul
  | div
  | rem
  | bitAnd
  | bitOr
  | shiftLeft
  | shiftRight
deriving DecidableEq

namespace Number

/-- A number of floating point. -/
def toBinary64 : Number → Binary64
  | .integer n => Binary64.ofInt n.toInt
  | .real x => x

end Number

namespace Operation

/-- An integer moved to the left by a number of bits, or to the right. -/
def shift (n : Int64) (left : Bool) (amount : Int64) : Int64 :=
  let left := if amount < 0 then !left else left
  let places := amount.toInt.natAbs
  if 64 ≤ places then if left then 0 else if n < 0 then -1 else 0
  else if left then Int64.ofInt (n.toInt * Nat.pow 2 places)
  else Int64.ofInt (n.toInt / Nat.pow 2 places)

/-- The operation on integers, before the result is made to fit. -/
def onInts (op : Operation) (a b : Int) : Option Int :=
  match op with
  | .add => some (a + b)
  | .sub => some (a - b)
  | .mul => some (a * b)
  | .div => if b = 0 then none else some (Int.tdiv a b)
  | .rem => if b = 0 then none else some (Int.tmod a b)
  | _ => none

/-- The operation on numbers of floating point. -/
def onReals (op : Operation) (x y : Binary64) : Binary64 :=
  match op with
  | .add => x.add y
  | .sub => x.sub y
  | .mul => x.mul y
  | .div => if y.isZero then .nan else x.div y
  | _ => .nan

/-- The operation on the bits of integers, if it is one. -/
def onBits (op : Operation) (m n : Int64) : Option Int64 :=
  match op with
  | .bitAnd => some (m &&& n)
  | .bitOr => some (m ||| n)
  | .shiftLeft => some (shift m true n)
  | .shiftRight => some (shift m false n)
  | _ => none

/-- The operation on two numbers; a remainder is that of the integers `m` and
    `n`. -/
def onNumbers (op : Operation) (m n : Int64) (a b : Number) : Cell :=
  let real := Cell.ofBinary64 (op.onReals a.toBinary64 b.toBinary64)
  match a, b with
  | .integer i, .integer j =>
    match op.onInts i.toInt j.toInt with
    | none => .null
    | some k => if Numeral.fitsInt64 k then .integer (Int64.ofInt k) else real
  | _, _ =>
    if op = .rem then
      match op.onInts m.toInt n.toInt with
      | none => .null
      | some k => .real (.ofInt k)
    else real

/-- The operation on two cells. -/
def eval (op : Operation) (x y : Cell) : Cell :=
  match x.toNumber?, y.toNumber? with
  | some a, some b =>
    match op.onBits x.toInt64 y.toInt64 with
    | some n => .integer n
    | none => op.onNumbers x.toInt64 y.toInt64 a b
  | _, _ => .null

example : eval .add (.integer 1) (.ofText "2x") = .integer 3 := by decide +kernel
example : eval .div (.integer (-7)) (.integer 2) = .integer (-3) := by decide +kernel
example : eval .mul (.integer (2 ^ 62)) (.integer 2) = .real (Binary64.ofInt (2 ^ 63)) := by
  decide +kernel

end Operation

/-! ## One operand -/

/-- The number with the other sign. -/
def negate (c : Cell) : Cell := Operation.sub.eval (.integer 0) c

/-- The integer with all its bits changed. -/
def complement (c : Cell) : Cell :=
  if c.isNull then .null else .integer (~~~ c.toInt64)

/-- Two texts put together. -/
def concat (x y : Cell) : Cell :=
  if x.isNull || y.isNull then .null else .text (x.toText.bytes ++ y.toText.bytes)

end BoundSql.Engine
