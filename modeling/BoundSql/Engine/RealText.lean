/-
  Numbers of the engine and their texts.

  Numbers with a fraction are converted by way of `Extended`: a decimal is
  scaled by powers of ten with 64 bits, and each step is rounded.

  * `RealText.write` gives up to fifteen digits of a number;
  * `RealText.read` reads the number at the beginning of a text, and tells
    whether the text is that number and nothing else.
-/
import BoundSql.Extended
import BoundSql.Decimal.Layout
import BoundSql.Decimal.Numeral
import BoundSql.Text.Blank

namespace BoundSql.Engine.RealText

/-! ## Writing -/

/-- The number of digits that a text has at most. -/
def digitLimit : Nat := 15

/-- A way to bring a number nearer to eighteen digits before the point: as
    long as the condition holds, it is multiplied by the factor, which adds
    `step` to the power of ten that is left over. -/
structure Scaling where
  again : Extended → Bool
  factor : Extended
  step : Int

/-- The ways to make a number smaller, the coarsest first. -/
def shrinking : List Scaling :=
  [⟨(Extended.ten 119).le, .tenth 100, 100⟩, ⟨(Extended.ten 29).le, .tenth 10, 10⟩,
    ⟨(Extended.ten 19).le, .tenth 1, 1⟩]

/-- The ways to make a number larger, the coarsest first. -/
def growing : List Scaling :=
  [⟨fun y => !(Extended.tenth 97).le y, .ten 100, -100⟩,
    ⟨fun y => !(Extended.ten 7).le y, .ten 10, -10⟩, ⟨fun y => !(Extended.ten 17).le y, .ten 1, -1⟩]

/-- A positive finite number as an integer of some eighteen digits and a power
    of ten. -/
def scale (x : Binary64) : Decimal :=
  let start : Extended := ⟨x.significand, x.unit - 1074⟩
  let ways := if (Extended.ten 19).le start then shrinking else growing
  let (y, e) := ways.foldl (fun r w => Extended.scaleWhile w.again w.factor w.step 32 r) (start, 0)
  ⟨Extended.floor y, e⟩

/-- A decimal rounded to a number of digits, a half up. -/
def roundTo (places : Nat) (d : Decimal) : Decimal :=
  let surplus := d.digits.length - places
  if surplus = 0 then d
  else ⟨(d.coefficient / Nat.pow 10 (surplus - 1) + 5) / 10, d.exponent + surplus⟩

/-- A number as text: up to fifteen digits, always with a point, and an
    exponent of two digits for the very large and the very small. -/
def write (x : Binary64) : String :=
  if x.isInfinite then if x.negative then "-Inf" else "Inf"
  else if x.isZero then "0.0"
  else
    let d := (roundTo digitLimit (scale x)).strip 20
    let k := d.leading
    let layout := { Layout.quoted with positional := fun _ => true }
    let size :=
      if -4 ≤ k ∧ k < digitLimit then layout.positionalText d
      else
        let exponent := Nat.toDigits 10 k.natAbs
        layout.positionalText ⟨d.coefficient, 1 - d.digits.length⟩ ++
          'e' :: (if k < 0 then '-' else '+') ::
            (List.replicate (2 - exponent.length) '0' ++ exponent)
    String.ofList (if x.negative then '-' :: size else size)

/-! ## Reading -/

/-- The blanks that may stand around a number, all of them ASCII. -/
def isBlank (c : Char) : Bool := c = ' ' || (0x9 ≤ c.toNat && c.toNat ≤ 0xd)

/-- A number at the beginning of a text. -/
structure Numeric where
  value : Binary64
  /-- The integer that the leading digits write. -/
  integer : Int
  /-- Whether a point or an exponent makes the number more than these digits. -/
  isDecimal : Bool
  /-- Whether the text is the number and blanks around it. -/
  isWhole : Bool

/-- The significand from which on further digits are left out. -/
def significandLimit : Nat := 1844674407370955160

/-- Reads digits before the point into a significand, and counts those that
    are left out. -/
def readWhole : Nat → List Char → Nat × Nat
  | s, [] => (s, 0)
  | s, c :: cs =>
    if significandLimit ≤ s then (s, cs.length + 1)
    else readWhole (10 * s + (c.toNat - '0'.toNat)) cs

/-- Reads digits after the point into a significand, and counts those that are
    read. -/
def readFraction : Nat → List Char → Nat × Nat
  | s, [] => (s, 0)
  | s, c :: cs =>
    if significandLimit ≤ s then readFraction s cs
    else
      let (t, n) := readFraction (10 * s + (c.toNat - '0'.toNat)) cs
      (t, n + 1)

/-- Makes a positive power of ten smaller while the significand has room. -/
def absorb : Nat → Nat → Nat × Nat
  | s, 0 => (s, 0)
  | s, e + 1 => if s < (Nat.pow 2 64 - 1 - 0x7ff) / 10 then absorb (10 * s) e else (s, e + 1)

/-- Makes a negative power of ten smaller while the significand ends in zero. -/
def release : Nat → Nat → Nat × Nat
  | s, 0 => (s, 0)
  | s, e + 1 => if s % 10 = 0 then release (s / 10) e else (s, e + 1)

/-- The factors by which a power of ten is made up, the largest first. -/
def multiply (power : Nat → Extended) (e : Nat) (x : Extended) : Extended :=
  let times (n : Nat) (factor : Extended) (y : Extended) : Extended :=
    (List.replicate n factor).foldl Extended.mul y
  times (e % 10) (power 1) (times (e / 10 % 10) (power 10) (times (e / 100) (power 100) x))

/-- The number `significand · 10^exponent`. -/
def ofDecimal (negative : Bool) (s : Nat) (e : Int) : Binary64 :=
  if s = 0 then .ofMagnitude negative 0
  else if 0 ≤ e then
    let (s, e) := absorb s e.toNat
    (multiply .ten e (.round s 0)).toBinary64 negative
  else
    let (s, e) := release s (-e).toNat
    (multiply .tenth e (.round s 0)).toBinary64 negative

/-- The exponent at the beginning of a text, if it has digits, and the rest. -/
def readExponent (cs : List Char) : Option Int × List Char :=
  let (negative, cs) := Numeral.splitSign cs
  let (digits, rest) := Numeral.splitDigits cs
  let e := min 10000 (Numeral.value digits)
  (if digits.isEmpty then none else some (Numeral.signed negative e), rest)

/-- The number at the beginning of a text; without digits it is zero. -/
def read (cs : List Char) : Numeric :=
  let (negative, cs) := Numeral.splitSign (cs.dropWhile isBlank)
  let (digits, rest) := Numeral.splitDigits cs
  let (s, left) := readWhole 0 digits
  let (fraction, rest, point) :=
    match rest with
    | '.' :: rest => ((Numeral.splitDigits rest).1, (Numeral.splitDigits rest).2, true)
    | rest => ([], rest, false)
  let (s, taken) := readFraction s fraction
  let (e, rest, power) :=
    match rest with
    | c :: rest =>
      if c = 'e' || c = 'E' then
        let (e, rest) := readExponent rest
        (e, rest, true)
      else (some 0, c :: rest, false)
    | [] => (some 0, [], false)
  let isNumber := !(digits.isEmpty && fraction.isEmpty)
  { value := ofDecimal negative s (e.getD 0 + left - taken)
    integer := Numeral.signed negative (Numeral.value digits)
    isDecimal := isNumber && (point || power) && (e.isSome || point)
    isWhole := e.isSome && isNumber && rest.all isBlank }

example : write (Binary64.ofDecimal false 15 (-1)) = "1.5" := by decide +kernel
example : write (Binary64.ofInt (10 ^ 20)) = "1.0e+20" := by decide +kernel
example : write (Binary64.ofDecimal true 1 (-5)) = "-1.0e-05" := by decide +kernel
example : write ⟨0x40508e8fe637ac88⟩ = "66.2275329154674" := by decide +kernel
example : (read "2.5x".toList).value = Binary64.ofDecimal false 25 (-1) := by decide +kernel

end BoundSql.Engine.RealText
