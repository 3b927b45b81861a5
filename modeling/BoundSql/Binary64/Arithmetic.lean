/-
  Arithmetic on 64-bit binary floating point numbers.

  Each operation is exact on the reals that two finite numbers stand for, and
  then rounded once: `ofScaled` is the number nearest a multiple of the least
  positive one.  What has no value is a NaN.
-/
import BoundSql.Binary64

namespace BoundSql.Binary64

/-- A finite number in units of the least positive one. -/
def scaled (x : Binary64) : Int :=
  let size : Nat := x.significand * Nat.pow 2 x.unit
  if x.negative then -(size : Int) else size

/-- The number nearest `i / scale`, which has a sign of its own if it is zero. -/
def ofQuotient (negative : Bool) (n d : Nat) : Binary64 := ofMagnitude negative (nearest n d)

/-- The number nearest a multiple of the least positive one. -/
def ofScaled (i : Int) : Binary64 := ofQuotient (i < 0) i.natAbs (Nat.pow 2 1074)

/-- The number with the other sign. -/
def neg (x : Binary64) : Binary64 := ⟨x.bits ^^^ 0x8000000000000000⟩

/-- The number without its sign. -/
def abs (x : Binary64) : Binary64 := if x.negative then x.neg else x

/-- The sum.  A sum of zero is negative only if both terms are. -/
def add (x y : Binary64) : Binary64 :=
  if x.isNaN || y.isNaN then nan
  else if x.isInfinite then if y.isInfinite && x.negative != y.negative then nan else x
  else if y.isInfinite then y
  else
    let sum := x.scaled + y.scaled
    if sum = 0 then ofMagnitude (x.negative && y.negative) 0 else ofScaled sum

/-- The difference. -/
def sub (x y : Binary64) : Binary64 := x.add y.neg

/-- The product. -/
def mul (x y : Binary64) : Binary64 :=
  let negative := x.negative != y.negative
  if x.isNaN || y.isNaN then nan
  else if x.isInfinite || y.isInfinite then
    if x.isZero || y.isZero then nan else infinity negative
  else ofQuotient negative (x.scaled.natAbs * y.scaled.natAbs) (Nat.pow 2 2148)

/-- The quotient. -/
def div (x y : Binary64) : Binary64 :=
  let negative := x.negative != y.negative
  if x.isNaN || y.isNaN then nan
  else if x.isInfinite then if y.isInfinite then nan else infinity negative
  else if y.isInfinite then ofMagnitude negative 0
  else if y.isZero then if x.isZero then nan else infinity negative
  else ofQuotient negative x.scaled.natAbs y.scaled.natAbs

/-- Whether the first is the lesser, where neither is a NaN. -/
def less (x y : Binary64) : Bool :=
  if x.isInfinite then x.negative && !(y.isInfinite && y.negative)
  else if y.isInfinite then !y.negative
  else x.scaled < y.scaled

example : (ofDecimal false 1 (-1)).add (ofDecimal false 2 (-1)) = ⟨0x3fd3333333333334⟩ := by
  decide +kernel
example : (ofInt 1).div (ofInt 3) = ⟨0x3fd5555555555555⟩ := by decide +kernel
example : (ofInt 3).mul (ofDecimal true 5 (-324)) = ⟨0x8000000000000003⟩ := by decide +kernel
example : (ofInt 1).sub (ofInt 1) = ⟨0⟩ := by decide +kernel

end BoundSql.Binary64
