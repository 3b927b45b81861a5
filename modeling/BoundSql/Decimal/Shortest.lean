/-
  The fewest decimal digits that read back as a given binary number.

  * `Decimal` is `coefficient · 10^exponent`;
  * `Span` is the interval of reals that round to a number, over a common
    denominator; its ends belong to it when the significand is even;
  * `Binary64.shortest` tries the grids of 1, 2, … 17 digits.  On each it
    looks at the two neighbours of the number.  The first grid with a
    neighbour in the interval decides, and of two the nearer one; an exact tie
    is left to the format that asks (`Tie`).
-/
import BoundSql.Binary64

namespace BoundSql

/-- The number `coefficient · 10^exponent`. -/
structure Decimal where
  coefficient : Nat
  exponent : Int
deriving DecidableEq, Repr

/-- Which of two neighbours equally near is taken. -/
inductive Tie where
  | toEven
  | up
deriving DecidableEq, Repr

namespace Decimal

/-- The digits of the coefficient, the leading one first. -/
def digits (d : Decimal) : List Char := Nat.toDigits 10 d.coefficient

/-- The power of ten of the leading digit. -/
def leading (d : Decimal) : Int := d.exponent + d.digits.length - 1

/-- Moves trailing zeros from the coefficient to the exponent, at most `n`. -/
def strip : Nat → Decimal → Decimal
  | 0, d => d
  | n + 1, d =>
    if d.coefficient % 10 = 0 then strip n ⟨d.coefficient / 10, d.exponent + 1⟩ else d

end Decimal

/-! ## The interval around a number -/

/-- The reals that round to one number: the number is `value / scale`, the
    ends of the interval are `low / scale` and `high / scale`. -/
structure Span where
  low : Nat
  value : Nat
  high : Nat
  scale : Nat
  closed : Bool

namespace Span

/-- The interval of a positive finite number.  Below a power of two the next
    number is only half as far away as above it. -/
def ofBinary64 (x : Binary64) : Span :=
  let m := x.significand
  let step := if x.fraction = 0 ∧ 1 < x.exponentField then 1 else 2
  let factor := Nat.pow 2 (x.unit - 1076)
  ⟨(4 * m - step) * factor, 4 * m * factor, (4 * m + 2) * factor, Nat.pow 2 (1076 - x.unit),
    m % 2 == 0⟩

/-- The interval in multiples of `10^e`. -/
def inUnits (s : Span) (e : Int) : Span :=
  if 0 ≤ e then { s with scale := s.scale * Nat.pow 10 e.toNat }
  else
    let f := Nat.pow 10 (-e).toNat
    { s with low := s.low * f, value := s.value * f, high := s.high * f }

/-- Whether the natural `n` lies in the interval. -/
def contains (s : Span) (n : Nat) : Bool :=
  if s.closed then s.low ≤ n * s.scale && n * s.scale ≤ s.high
  else s.low < n * s.scale && n * s.scale < s.high

/-- The natural of the interval nearest the number, if one of the number's two
    neighbours lies in it. -/
def neighbour? (tie : Tie) (s : Span) : Option Nat :=
  let n := s.value / s.scale
  match s.contains n, s.contains (n + 1) with
  | true, false => some n
  | false, true => some (n + 1)
  | false, false => none
  | true, true =>
    let below := 2 * (s.value - n * s.scale)
    if below < s.scale then some n
    else if s.scale < below then some (n + 1)
    else match tie with
      | .up => some (n + 1)
      | .toEven => some (n + n % 2)

/-- What is found on a grid lies in the interval. -/
theorem contains_of_neighbour? {tie : Tie} {s : Span} {n : Nat} (h : s.neighbour? tie = some n) :
    s.contains n = true := by
  unfold neighbour? at h
  dsimp only at h
  split at h
  · next h₁ _ => cases h; exact h₁
  · next _ h₂ => cases h; exact h₂
  · cases h
  · next h₁ h₂ =>
    split at h
    · cases h; exact h₁
    · split at h
      · cases h; exact h₂
      · cases tie
        · rcases Nat.mod_two_eq_zero_or_one (s.value / s.scale) with hm | hm <;>
            simp only [hm] at h <;> cases h
          · exact h₁
          · exact h₂
        · cases h; exact h₂

/-- The power of ten of the number's leading digit.  Every positive number of
    the format is above `10^(-400)`. -/
def leading (s : Span) : Int :=
  (Nat.toDigits 10 (s.value * Nat.pow 10 400 / s.scale)).length - 401

end Span

/-! ## Selection -/

/-- The shortest decimal that reads back as the magnitude of a finite number
    other than zero. -/
def Binary64.shortest (tie : Tie) (x : Binary64) : Decimal :=
  let s := Span.ofBinary64 x
  let grid (n : Nat) : Option Decimal :=
    let e := s.leading - n
    ((s.inUnits e).neighbour? tie).map fun c => (⟨c, e⟩ : Decimal).strip 18
  ((List.range 17).findSome? grid).getD ⟨x.significand * Nat.pow 2 x.unit, -1074⟩

example : (Binary64.ofDecimal false 1 23).shortest .up = ⟨1, 23⟩ := by decide +kernel
example : (Binary64.ofDecimal false 5 (-324)).shortest .up = ⟨5, -324⟩ := by decide +kernel
example : (Binary64.ofDecimal false 3 (-1)).shortest .up = ⟨3, -1⟩ := by decide +kernel
example : (⟨0x3e60000000000000⟩ : Binary64).shortest .up = ⟨29802322387695313, -24⟩ := by
  decide +kernel
example : (⟨0x3e60000000000000⟩ : Binary64).shortest .toEven = ⟨29802322387695312, -24⟩ := by
  decide +kernel
example : (⟨0x7fefffffffffffff⟩ : Binary64).shortest .up = ⟨17976931348623157, 292⟩ := by
  decide +kernel

end BoundSql
