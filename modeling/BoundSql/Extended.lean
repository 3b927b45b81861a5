/-
  Positive numbers with 64 significant bits.

  * `Extended` is `significand · 2^exponent`;
  * `round` keeps the 64 leading bits of a natural, a tie going to the even
    significand, and `mul` is the rounded product;
  * `ten` and `tenth` are the numbers nearest to powers of ten;
  * `toBinary64` rounds to the 64-bit format, which has 53 bits.
-/
import BoundSql.Binary64

namespace BoundSql

/-- The number `significand · 2^exponent`. -/
structure Extended where
  significand : Nat
  exponent : Int
deriving DecidableEq, Repr

namespace Extended

/-- The number of significant bits. -/
def precision : Nat := 64

/-- The number nearest `n · 2^exponent`. -/
def round (n : Nat) (exponent : Int) : Extended :=
  let surplus := n.log2 + 1 - precision
  ⟨Binary64.roundHalfEven n (Nat.pow 2 surplus), exponent + surplus⟩

/-- The rounded product. -/
def mul (x y : Extended) : Extended :=
  round (x.significand * y.significand) (x.exponent + y.exponent)

/-- The number nearest `10^n`. -/
def ten (n : Nat) : Extended := round (Nat.pow 10 n) 0

/-- The number nearest `10^(-n)`. -/
def tenth (n : Nat) : Extended :=
  let shift := precision + (Nat.pow 10 n).log2
  ⟨Binary64.roundHalfEven (Nat.pow 2 shift) (Nat.pow 10 n), -shift⟩

/-- Whether the first is at most the second. -/
def le (x y : Extended) : Bool :=
  let e := min x.exponent y.exponent
  x.significand * Nat.pow 2 (x.exponent - e).toNat ≤
    y.significand * Nat.pow 2 (y.exponent - e).toNat

/-- The integer part. -/
def floor (x : Extended) : Nat :=
  if 0 ≤ x.exponent then x.significand * Nat.pow 2 x.exponent.toNat
  else x.significand / Nat.pow 2 (-x.exponent).toNat

/-- The greatest finite number of the 64-bit format. -/
def greatest : Extended := ⟨Nat.pow 2 53 - 1, 971⟩

/-- The nearest number of the 64-bit format; every larger one than its greatest
    is infinite. -/
def toBinary64 (negative : Bool) (x : Extended) : Binary64 :=
  if !x.le greatest then Binary64.infinity negative
  else if 0 ≤ x.exponent then
    .ofMagnitude negative (Binary64.nearest (x.significand * Nat.pow 2 x.exponent.toNat) 1)
  else .ofMagnitude negative (Binary64.nearest x.significand (Nat.pow 2 (-x.exponent).toNat))

/-- Multiplies by a factor for as long as a condition holds, and adds up the
    steps; `fuel` bounds their number. -/
def scaleWhile (again : Extended → Bool) (factor : Extended) (step : Int) :
    Nat → Extended × Int → Extended × Int
  | 0, r => r
  | fuel + 1, (x, total) =>
    if again x then scaleWhile again factor step fuel (x.mul factor, total + step) else (x, total)

example : ten 1 = ⟨10, 0⟩ := by decide +kernel
example : tenth 1 = ⟨0xcccccccccccccccd, -67⟩ := by decide +kernel
example : ((tenth 1).mul (ten 1)).toBinary64 false = Binary64.ofInt 1 := by decide +kernel

end Extended

end BoundSql
