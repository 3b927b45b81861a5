/-
  How a binary number is written in decimal.

  A `Layout` holds the decisions of one written form; `Layout.render` is the
  same for all of them.  The three forms of the library are `Layout.plain`,
  `Layout.json` and `Layout.quoted`.
-/
import BoundSql.Decimal.Shortest

namespace BoundSql

/-- The decisions of a written form. -/
structure Layout where
  /-- Whether a number with this power of ten at its leading digit is written
      without an exponent. -/
  positional : Int → Bool
  /-- Whether a whole number ends in `.0`. -/
  pointZero : Bool
  /-- Whether a positive exponent has a sign. -/
  exponentPlus : Bool
  /-- Which of two shortest texts equally near is taken. -/
  tie : Tie
  nan : String
  infinity : String
  negInfinity : String

namespace Layout

/-- The digits of `d` with a point between them, or zeros before or after. -/
def positionalText (f : Layout) (d : Decimal) : List Char :=
  let k := d.leading
  let whole := (k + 1).toNat
  if k < 0 then '0' :: '.' :: (List.replicate (-k - 1).toNat '0' ++ d.digits)
  else if d.digits.length ≤ whole then
    d.digits ++ List.replicate (whole - d.digits.length) '0' ++
      (if f.pointZero then ['.', '0'] else [])
  else d.digits.take whole ++ '.' :: d.digits.drop whole

/-- The leading digit, a point and the others if there are others, and the
    exponent. -/
def exponentText (f : Layout) (d : Decimal) : List Char :=
  let k := d.leading
  let sign := if k < 0 then ['-'] else if f.exponentPlus then ['+'] else []
  d.digits.take 1 ++ (if d.digits.length ≤ 1 then [] else '.' :: d.digits.drop 1) ++
    'e' :: (sign ++ Nat.toDigits 10 k.natAbs)

/-- The text of a number. -/
def render (f : Layout) (x : Binary64) : String :=
  if x.isNaN then f.nan
  else if x.isInfinite then if x.negative then f.negInfinity else f.infinity
  else
    let size :=
      if x.isZero then '0' :: (if f.pointZero then ['.', '0'] else [])
      else
        let d := x.shortest f.tie
        if f.positional d.leading then f.positionalText d else f.exponentText d
    String.ofList (if x.negative then '-' :: size else size)

/-! ## The written forms -/

/-- Values shown to a reader: digits only, whatever the size. -/
def plain : Layout where
  positional _ := true
  pointZero := false
  exponentPlus := false
  tie := .up
  nan := "NaN"
  infinity := "inf"
  negInfinity := "-inf"

/-- Numbers of a JSON document, which has neither NaN nor infinity.  A
    fraction keeps them apart from integers. -/
def json : Layout where
  positional k := -5 ≤ k && k ≤ 15
  pointZero := true
  exponentPlus := true
  tie := .toEven
  nan := "null"
  infinity := "null"
  negInfinity := "null"

/-- Numbers quoted in messages. -/
def quoted : Layout where
  positional k := -4 ≤ k && k ≤ 15
  pointZero := true
  exponentPlus := false
  tie := .up
  nan := "NaN"
  infinity := "inf"
  negInfinity := "-inf"

example : plain.render (Binary64.ofInt (10 ^ 21)) = "1000000000000000000000" := by decide +kernel
example : plain.render (Binary64.ofDecimal false 1 (-7)) = "0.0000001" := by decide +kernel
example : plain.render ⟨0x8000000000000000⟩ = "-0" := by decide +kernel
example : json.render (Binary64.ofInt (10 ^ 16)) = "1e+16" := by decide +kernel
example : json.render (Binary64.ofDecimal true 15 (-8)) = "-1.5e-7" := by decide +kernel
example : json.render (Binary64.ofDecimal false 1 (-5)) = "0.00001" := by decide +kernel
example : quoted.render (Binary64.ofDecimal false 15 (-6)) = "1.5e-5" := by decide +kernel
example : quoted.render (Binary64.ofInt (10 ^ 16)) = "1e16" := by decide +kernel
example : quoted.render (Binary64.ofInt 9007199254740992) = "9007199254740992.0" := by
  decide +kernel

end Layout

end BoundSql
