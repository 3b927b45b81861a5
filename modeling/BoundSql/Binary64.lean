/-
  Numbers of the 64-bit binary floating point format, as bit patterns.

  * `Binary64` is a pattern; a finite one stands for
    `significand · 2^(unit - 1074)`, with the sign `negative`;
  * `nearest` is the pattern nearest a quotient of naturals, a tie going to
    the even significand; `ofInt`, `ofDecimal` and `ofBinary32` are stated
    through it;
  * `same` is the comparison of numbers: a NaN differs from everything, and
    the two zeros are equal;
  * `truncate` drops the fraction, and `toInt64` clamps the result.
-/

namespace BoundSql

/-- A 64-bit floating point number: sign, eleven exponent bits, 52 fraction
    bits. -/
structure Binary64 where
  bits : UInt64
deriving DecidableEq, Inhabited

namespace Binary64

/-! ## Fields -/

/-- The sign bit. -/
def negative (x : Binary64) : Bool := Nat.pow 2 63 ≤ x.bits.toNat

/-- The exponent bits. -/
def exponentField (x : Binary64) : Nat := x.bits.toNat / Nat.pow 2 52 % Nat.pow 2 11

/-- The fraction bits. -/
def fraction (x : Binary64) : Nat := x.bits.toNat % Nat.pow 2 52

/-- Whether the pattern is that of a finite number. -/
def isFinite (x : Binary64) : Bool := x.exponentField != 2047

/-- Whether the pattern is that of no number at all. -/
def isNaN (x : Binary64) : Bool := x.exponentField == 2047 && x.fraction != 0

/-- Whether the pattern is that of an infinity. -/
def isInfinite (x : Binary64) : Bool := x.exponentField == 2047 && x.fraction == 0

/-- Whether the pattern is one of the two zeros. -/
def isZero (x : Binary64) : Bool := x.exponentField == 0 && x.fraction == 0

/-- The fraction with the leading bit that a normal number leaves out. -/
def significand (x : Binary64) : Nat :=
  if x.exponentField = 0 then x.fraction else Nat.pow 2 52 + x.fraction

/-- The exponent of the last place, counted from that of the least positive
    number, `2^(-1074)`. -/
def unit (x : Binary64) : Nat := x.exponentField - 1

/-! ## Comparison -/

/-- Equality of numbers. -/
def same (x y : Binary64) : Bool :=
  !x.isNaN && !y.isNaN && (x.bits == y.bits || (x.isZero && y.isZero))

/-! ## Rounding -/

/-- `a / d` rounded to the nearest natural, a tie to the even one. -/
def roundHalfEven (a d : Nat) : Nat :=
  let q := a / d
  let r := a % d
  if 2 * r < d then q else if d < 2 * r then q + 1 else q + q % 2

/-- A rounded quotient is one of the two naturals around the exact one. -/
theorem roundHalfEven_eq_or (a d : Nat) :
    roundHalfEven a d = a / d ∨ roundHalfEven a d = a / d + 1 := by
  unfold roundHalfEven
  dsimp only
  split
  · exact .inl rfl
  · split
    · exact .inr rfl
    · rcases Nat.mod_two_eq_zero_or_one (a / d) with h | h <;> simp [h]

/-- The pattern of infinity, which is also the first one too large to be
    finite. -/
def infinityBits : Nat := 2047 * Nat.pow 2 52

/-- The pattern, without its sign, of the number nearest `n / d`.

    The last place `u` is chosen so that 53 bits remain.  A significand that
    rounding carries to `2^53` needs no case of its own: its pattern is that
    of the next power of two. -/
def nearest (n d : Nat) : Nat :=
  let u := (n * Nat.pow 2 1074 / d).log2 + 1 - 53
  min infinityBits (u * Nat.pow 2 52 + roundHalfEven (n * Nat.pow 2 1074) (d * Nat.pow 2 u))

/-- A pattern with the sign in front. -/
def ofMagnitude (negative : Bool) (magnitude : Nat) : Binary64 :=
  ⟨UInt64.ofNat ((if negative then Nat.pow 2 63 else 0) + magnitude)⟩

/-- The infinity of a sign. -/
def infinity (negative : Bool) : Binary64 := ofMagnitude negative infinityBits

/-- The pattern of a NaN. -/
def nan : Binary64 := ⟨0x7ff8000000000000⟩

/-- The number nearest an integer. -/
def ofInt (i : Int) : Binary64 := ofMagnitude (i < 0) (nearest i.natAbs 1)

/-- The number nearest `coefficient · 10^exponent`.

    Far outside the range of the format the answer is known without computing
    the power. -/
def ofDecimal (negative : Bool) (coefficient : Nat) (exponent : Int) : Binary64 :=
  if coefficient = 0 then ofMagnitude negative 0
  else
    let places := exponent + (Nat.toDigits 10 coefficient).length
    if 400 < places then infinity negative
    else if places < -400 then ofMagnitude negative 0
    else if 0 ≤ exponent then
      ofMagnitude negative (nearest (coefficient * Nat.pow 10 exponent.toNat) 1)
    else ofMagnitude negative (nearest coefficient (Nat.pow 10 (-exponent).toNat))

/-- A number of the 32-bit format, which is always also one of this format. -/
def ofBinary32 (bits : UInt32) : Binary64 :=
  let n := bits.toNat
  let negative : Bool := Nat.pow 2 31 ≤ n
  let exponent := n / Nat.pow 2 23 % Nat.pow 2 8
  let fraction := n % Nat.pow 2 23
  if exponent = 255 then
    if fraction = 0 then infinity negative else nan
  else if exponent = 0 then ofMagnitude negative (nearest fraction (Nat.pow 2 149))
  else
    let significand := (Nat.pow 2 23 + fraction) * Nat.pow 2 (exponent - 1)
    ofMagnitude negative (nearest significand (Nat.pow 2 149))

/-! ## Integers -/

/-- The integer part of a finite number. -/
def truncate (x : Binary64) : Int :=
  let size : Nat := x.significand * Nat.pow 2 x.unit / Nat.pow 2 1074
  if x.negative then -(size : Int) else size

/-- An integer moved to the nearest one of 64 bits. -/
def clampInt64 (i : Int) : Int64 :=
  Int64.ofInt (max (-Nat.pow 2 63) (min (Nat.pow 2 63 - 1) i))

/-- The integer part, clamped to 64 bits; a NaN has none and gives zero. -/
def toInt64 (x : Binary64) : Int64 :=
  if x.isNaN then 0
  else if x.isInfinite then clampInt64 (if x.negative then -Nat.pow 2 63 else Nat.pow 2 63)
  else clampInt64 x.truncate

/-- The integer that a number is, when it is one. -/
def toInt? (x : Binary64) : Option Int :=
  if x.isFinite && x.significand * Nat.pow 2 x.unit % Nat.pow 2 1074 == 0 then some x.truncate
  else none

/-! ## Written down -/

example : ofInt 1 = ⟨0x3ff0000000000000⟩ := by decide +kernel
example : ofInt (2 ^ 53 + 1) = ofInt (2 ^ 53) := by decide +kernel
example : ofDecimal false 1 (-1) = ⟨0x3fb999999999999a⟩ := by decide +kernel
example : ofDecimal false 5 (-324) = ⟨1⟩ := by decide +kernel
example : ofBinary32 0x3dcccccd = ⟨0x3fb99999a0000000⟩ := by decide +kernel
example : (ofDecimal false 9 18).toInt64 = 9000000000000000000 := by decide +kernel

end Binary64

end BoundSql
