/-
  Numbers read from text.

  * `readInt64?` accepts a sign and decimal digits, within 64 bits;
  * `readBinary64?` accepts a sign and a decimal with optional fraction and
    exponent, or the name of an infinity or of a NaN; the number it gives is
    the nearest one.
-/
import BoundSql.Binary64

namespace BoundSql.Numeral

/-! ## Digits -/

/-- The value of a string of decimal digits. -/
def value (digits : List Char) : Nat :=
  digits.foldl (fun n c => 10 * n + (c.toNat - '0'.toNat)) 0

/-- The sign in front, `true` for a minus, and the rest. -/
def splitSign : List Char → Bool × List Char
  | '-' :: cs => (true, cs)
  | '+' :: cs => (false, cs)
  | cs => (false, cs)

/-- The leading digits and the rest. -/
def splitDigits (cs : List Char) : List Char × List Char :=
  (cs.takeWhile Char.isDigit, cs.dropWhile Char.isDigit)

/-- A natural with a sign. -/
def signed (negative : Bool) (n : Nat) : Int := if negative then -(n : Int) else n

/-! ## Integers -/

/-- Whether an integer fits in 64 bits. -/
def fitsInt64 (i : Int) : Bool := -Nat.pow 2 63 ≤ i && i < Nat.pow 2 63

/-- A 64-bit integer. -/
def readInt64? (cs : List Char) : Option Int64 :=
  let (negative, digits) := splitSign cs
  let i := signed negative (value digits)
  if digits.isEmpty || !digits.all Char.isDigit || !fitsInt64 i then none
  else some (Int64.ofInt i)

/-! ## Decimals -/

/-- The exponent at the end of a number: nothing, or `e` and an integer. -/
def readExponent? : List Char → Option Int
  | [] => some 0
  | c :: cs =>
    let (negative, digits) := splitSign cs
    if (c = 'e' || c = 'E') && !digits.isEmpty && digits.all Char.isDigit then
      some (signed negative (value digits))
    else none

/-- A decimal without its sign: digits before or after the point, or both. -/
def readDecimal? (negative : Bool) (cs : List Char) : Option Binary64 :=
  let (whole, rest) := splitDigits cs
  let (fraction, rest) :=
    match rest with
    | '.' :: rest => splitDigits rest
    | rest => ([], rest)
  if whole.isEmpty && fraction.isEmpty then none
  else (readExponent? rest).map fun e =>
    Binary64.ofDecimal negative (value (whole ++ fraction)) (e - fraction.length)

/-- The number that is named, in any case. -/
def readNamed? (negative : Bool) (cs : List Char) : Option Binary64 :=
  let name := cs.map Char.toLower
  if name = "inf".toList || name = "infinity".toList then some (Binary64.infinity negative)
  else if name = "nan".toList then some Binary64.nan
  else none

/-- A floating point number. -/
def readBinary64? (cs : List Char) : Option Binary64 :=
  let (negative, cs) := splitSign cs
  (readDecimal? negative cs).or (readNamed? negative cs)

example : readInt64? "-9223372036854775808".toList = some (-9223372036854775808) := by
  decide +kernel
example : readInt64? "9223372036854775808".toList = none := by decide +kernel
example : readInt64? "+".toList = none := by decide +kernel
example : readBinary64? "-.5e1".toList = some ⟨0xc014000000000000⟩ := by decide +kernel
example : readBinary64? "5.".toList = some ⟨0x4014000000000000⟩ := by decide +kernel
example : readBinary64? ".".toList = none := by decide +kernel
example : readBinary64? "1e".toList = none := by decide +kernel
example : readBinary64? "-iNf".toList = some ⟨0xfff0000000000000⟩ := by decide +kernel

end BoundSql.Numeral
