/-
  Dates and times, and the texts under which they are bound.

  * `Date.text` is `2024-01-31`; years of more than four digits, and years
    before zero, have a sign;
  * `Time.text` is `08:30:00`, with 3, 6 or 9 digits of fraction, the fewest
    that are exact; a nanosecond from `10^9` on is inside a leap second;
  * `DateTime.text` puts a blank between the two, `DateTime.utcText` a `T`,
    and ends in the offset.
-/

namespace BoundSql

/-- A natural in decimal with zeros in front, at least `width` digits. -/
def padded (width n : Nat) : String :=
  let digits := Nat.toDigits 10 n
  String.ofList (List.replicate (width - digits.length) '0' ++ digits)

/-- A day of the proleptic Gregorian calendar. -/
structure Date where
  year : Int
  month : Nat
  day : Nat
deriving DecidableEq, Repr

/-- A time of day.  During a leap second the nanoseconds run on from `10^9`. -/
structure Time where
  hour : Nat
  minute : Nat
  second : Nat
  nanosecond : Nat
deriving DecidableEq, Repr

/-- A date with a time of day. -/
structure DateTime where
  date : Date
  time : Time
deriving DecidableEq, Repr

/-- A year: four digits, or a sign and at least four digits. -/
def Date.yearText (y : Int) : String :=
  if 0 ≤ y ∧ y ≤ 9999 then padded 4 y.toNat
  else (if y < 0 then "-" else "+") ++ padded 4 y.natAbs

/-- Year, month and day, with hyphens. -/
def Date.text (d : Date) : String :=
  Date.yearText d.year ++ "-" ++ padded 2 d.month ++ "-" ++ padded 2 d.day

/-- The second shown: a leap second is one more than the one it prolongs. -/
def Time.shownSecond (t : Time) : Nat := t.second + t.nanosecond / Nat.pow 10 9

/-- The fraction of a second in nanoseconds. -/
def Time.subsecond (t : Time) : Nat := t.nanosecond % Nat.pow 10 9

/-- The fraction of a second: nothing, or a point and 3, 6 or 9 digits. -/
def Time.fractionText (t : Time) : String :=
  let n := t.subsecond
  if n = 0 then ""
  else if n % Nat.pow 10 6 = 0 then "." ++ padded 3 (n / Nat.pow 10 6)
  else if n % Nat.pow 10 3 = 0 then "." ++ padded 6 (n / Nat.pow 10 3)
  else "." ++ padded 9 n

/-- Hour, minute and second, with colons, and the fraction. -/
def Time.text (t : Time) : String :=
  padded 2 t.hour ++ ":" ++ padded 2 t.minute ++ ":" ++ padded 2 t.shownSecond ++ t.fractionText

/-- Date and time, with a blank between them. -/
def DateTime.text (d : DateTime) : String := d.date.text ++ " " ++ d.time.text

/-- A moment of universal time. -/
def DateTime.utcText (d : DateTime) : String := d.date.text ++ "T" ++ d.time.text ++ "+00:00"

example : Date.text ⟨2024, 1, 31⟩ = "2024-01-31" := by decide +kernel
example : Date.text ⟨-1, 12, 1⟩ = "-0001-12-01" := by decide +kernel
example : Date.text ⟨10000, 1, 1⟩ = "+10000-01-01" := by decide +kernel
example : Time.text ⟨23, 59, 59, 1500000000⟩ = "23:59:60.500" := by decide +kernel
example : Time.text ⟨8, 30, 0, 1000⟩ = "08:30:00.000001" := by decide +kernel

end BoundSql
