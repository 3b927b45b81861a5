/-
  The texts of dates and times sort as the moments do.

  * `Date.dayNumber` counts the days of the calendar, `Date.Valid` and
    `Time.Valid` are the moments there are, leap seconds among them, and
    `Before` is their order in time;
  * `Text.digitBytes_append_lt`: numbers of one width compare as their digits,
    whatever follows;
  * `Time.FractionBytes.append_lt`: fractions of unequal width compare where the
    shorter one ends, since what follows it (`LowTail`) is less than a digit
    and less than a point;
  * `chronological`: byte order is the order in time, for all four types.
-/
import BoundSql.Value
import Mathlib.Algebra.Group.Nat.Defs

namespace BoundSql

/-! ## Days and moments -/

/-- The days, months or years before the one with a number, when `length` is
    how long each of them is. -/
def elapsed (length : Nat → Nat) : Nat → Nat
  | 0 => 0
  | n + 1 => elapsed length n + length n

theorem elapsed_add_le (length : Nat → Nat) {m n : Nat} (h : m < n) :
    elapsed length m + length m ≤ elapsed length n := by
  induction n with
  | zero => omega
  | succ n ih =>
    rcases Nat.lt_succ_iff_lt_or_eq.1 h with hlt | rfl
    · exact Nat.le_trans (ih hlt) (Nat.le_add_right _ _)
    · exact Nat.le_refl _

namespace Date

/-- A leap year of the Gregorian calendar. -/
def isLeap (year : Nat) : Bool := year % 4 = 0 && (year % 100 ≠ 0 || year % 400 = 0)

/-- The days of a month, the first month being `1`. -/
def monthLength (year month : Nat) : Nat :=
  if month = 0 then 0
  else if month = 2 then if isLeap year then 29 else 28
  else if month = 4 ∨ month = 6 ∨ month = 9 ∨ month = 11 then 30
  else 31

/-- The days of a year, which are those of its twelve months. -/
def yearLength (year : Nat) : Nat := elapsed (monthLength year) 13

/-- The number of a day, counted from the beginning of year zero. -/
def dayNumber (d : Date) : Nat :=
  elapsed yearLength d.year.toNat + elapsed (monthLength d.year.toNat) d.month + d.day

/-- A day that the calendar has, in a year of four digits. -/
structure Valid (d : Date) : Prop where
  year : 0 ≤ d.year ∧ d.year ≤ 9999
  month : 1 ≤ d.month ∧ d.month ≤ 12
  day : 1 ≤ d.day ∧ d.day ≤ monthLength d.year.toNat d.month

/-- One day is before another. -/
def Before (x y : Date) : Prop := x.dayNumber < y.dayNumber

example : yearLength 1900 = 365 := by decide
example : yearLength 2000 = 366 := by decide

end Date

namespace Time

/-- The seconds since midnight. -/
def secondOfDay (t : Time) : Nat := (t.hour * 60 + t.minute) * 60 + t.second

/-- A time of day.  Only the last second of a minute can be prolonged by a leap
    second. -/
structure Valid (t : Time) : Prop where
  hour : t.hour < 24
  minute : t.minute < 60
  second : t.second < 60
  nanosecond : t.nanosecond < 2 * Nat.pow 10 9
  leap : Nat.pow 10 9 ≤ t.nanosecond → t.second = 59

/-- One time is before another; a leap second is after the second that it
    prolongs and before the next one. -/
def Before (x y : Time) : Prop :=
  x.secondOfDay < y.secondOfDay ∨ x.secondOfDay = y.secondOfDay ∧ x.nanosecond < y.nanosecond

end Time

namespace DateTime

/-- The day and the time of day are valid. -/
def Valid (d : DateTime) : Prop := d.date.Valid ∧ d.time.Valid

/-- One moment is before another: by the day, then by the time of day. -/
def Before (x y : DateTime) : Prop :=
  x.date.Before y.date ∨ x.date = y.date ∧ x.time.Before y.time

end DateTime

namespace Date

/-- A day is within its year. -/
theorem Valid.dayOfYear_le {d : Date} (h : d.Valid) :
    elapsed (monthLength d.year.toNat) d.month + d.day ≤ yearLength d.year.toNat :=
  calc elapsed (monthLength d.year.toNat) d.month + d.day
    _ ≤ elapsed (monthLength d.year.toNat) d.month + monthLength d.year.toNat d.month :=
      Nat.add_le_add_left h.day.2 _
    _ ≤ yearLength d.year.toNat := elapsed_add_le _ (Nat.lt_succ_of_le h.month.2)

theorem before_of_year_lt {x y : Date} (hx : x.Valid) (hy : y.Valid) (h : x.year < y.year) :
    x.Before y := by
  have hday := hx.dayOfYear_le
  have hlt : x.year.toNat < y.year.toNat := by have := hx.year; omega
  have hyear := elapsed_add_le yearLength hlt
  have := hy.day.1
  unfold Before dayNumber
  omega

theorem before_of_month_lt {x y : Date} (hx : x.Valid) (hy : y.Valid) (hyear : x.year = y.year)
    (h : x.month < y.month) : x.Before y := by
  have hday := hx.day.2
  have hmonth := elapsed_add_le (monthLength x.year.toNat) h
  have := hy.day.1
  unfold Before dayNumber
  rw [← hyear]
  omega

theorem before_of_day_lt {x y : Date} (hyear : x.year = y.year) (hmonth : x.month = y.month)
    (h : x.day < y.day) : x.Before y := by
  unfold Before dayNumber
  rw [hyear, hmonth]
  omega

/-- Year, month and day, the first of them that differs decides. -/
inductive FieldsLt (x y : Date) : Prop where
  | year (h : x.year < y.year)
  | month (hyear : x.year = y.year) (h : x.month < y.month)
  | day (hyear : x.year = y.year) (hmonth : x.month = y.month) (h : x.day < y.day)

theorem fieldsLt_trichotomy (x y : Date) : x.FieldsLt y ∨ x = y ∨ y.FieldsLt x := by
  rcases Int.lt_trichotomy x.year y.year with h | hyear | h
  · exact .inl (.year h)
  · rcases Nat.lt_trichotomy x.month y.month with h | hmonth | h
    · exact .inl (.month hyear h)
    · rcases Nat.lt_trichotomy x.day y.day with h | hday | h
      · exact .inl (.day hyear hmonth h)
      · cases x
        cases y
        simp_all
      · exact .inr (.inr (.day hyear.symm hmonth.symm h))
    · exact .inr (.inr (.month hyear.symm h))
  · exact .inr (.inr (.year h))

theorem FieldsLt.before {x y : Date} (h : x.FieldsLt y) (hx : x.Valid) (hy : y.Valid) :
    x.Before y := by
  cases h with
  | year h => exact before_of_year_lt hx hy h
  | month hyear h => exact before_of_month_lt hx hy hyear h
  | day hyear hmonth h => exact before_of_day_lt hyear hmonth h

theorem Before.fieldsLt {x y : Date} (h : x.Before y) (hx : x.Valid) (hy : y.Valid) :
    x.FieldsLt y := by
  rcases fieldsLt_trichotomy x y with hlt | rfl | hgt
  · exact hlt
  · exact absurd h (Nat.lt_irrefl _)
  · exact absurd h (Nat.lt_asymm (hgt.before hy hx))

theorem trichotomy {x y : Date} (hx : x.Valid) (hy : y.Valid) :
    x.Before y ∨ x = y ∨ y.Before x := by
  rcases fieldsLt_trichotomy x y with h | h | h
  · exact .inl (h.before hx hy)
  · exact .inr (.inl h)
  · exact .inr (.inr (h.before hy hx))

end Date

namespace Time

/-- What is shown of a time, of which the first number that differs decides. -/
inductive ShownLt (x y : Time) : Prop where
  | hour (h : x.hour < y.hour)
  | minute (hhour : x.hour = y.hour) (h : x.minute < y.minute)
  | second (hhour : x.hour = y.hour) (hminute : x.minute = y.minute)
      (h : x.shownSecond < y.shownSecond)
  | subsecond (hhour : x.hour = y.hour) (hminute : x.minute = y.minute)
      (hsecond : x.shownSecond = y.shownSecond) (h : x.subsecond < y.subsecond)

theorem trichotomy {x y : Time} (hx : x.Valid) (hy : y.Valid) :
    x.Before y ∨ x = y ∨ y.Before x := by
  have := hx.minute
  have := hx.second
  have := hy.minute
  have := hy.second
  cases x
  cases y
  simp only [Before, secondOfDay, mk.injEq] at *
  omega

/-- A leap second is shown as second 60, after the second that it prolongs. -/
theorem Before.shownLt {x y : Time} (h : x.Before y) (hx : x.Valid) (hy : y.Valid) :
    x.ShownLt y := by
  have := hx.minute
  have := hx.second
  have := hx.leap
  have := hy.minute
  have := hy.second
  have := hy.leap
  have hpow : Nat.pow 10 9 = 1000000000 := rfl
  unfold Before secondOfDay at h
  rcases Nat.lt_trichotomy x.hour y.hour with hlt | hhour | hgt
  · exact .hour hlt
  · rcases Nat.lt_trichotomy x.minute y.minute with hlt | hminute | hgt
    · exact .minute hhour hlt
    · rcases Nat.lt_trichotomy x.shownSecond y.shownSecond with hlt | hsecond | hgt
      · exact .second hhour hminute hlt
      · refine .subsecond hhour hminute hsecond ?_
        simp only [shownSecond, subsecond, hpow] at *
        omega
      · simp only [shownSecond, hpow] at *
        omega
    · omega
  · omega

end Time

/-! ## The bytes of a text -/

namespace Text

/-- The bytes of a text in UTF-8; their order is that of lists. -/
def bytes (s : String) : List UInt8 := s.toUTF8.data.toList

@[simp] theorem bytes_append (s t : String) : bytes (s ++ t) = bytes s ++ bytes t := by
  simp [bytes, String.toUTF8]

/-- The last `w` digits of a number, as bytes. -/
def digitBytes : Nat → Nat → List UInt8
  | 0, _ => []
  | w + 1, n => digitBytes w (n / 10) ++ [UInt8.ofNat (48 + n % 10)]

theorem digitBytes_add (w j n : Nat) :
    digitBytes (w + j) n = digitBytes w (n / 10 ^ j) ++ digitBytes j n := by
  induction j generalizing n with
  | zero => simp [digitBytes]
  | succ j ih =>
    rw [← Nat.add_assoc, digitBytes, ih, digitBytes, Nat.div_div_eq_div_mul, ← Nat.pow_succ',
      List.append_assoc]

/-- The first of the digits of a number. -/
theorem digitBytes_succ (w n : Nat) :
    digitBytes (w + 1) n = UInt8.ofNat (48 + n / 10 ^ w % 10) :: digitBytes w n := by
  rw [Nat.add_comm w 1, digitBytes_add 1 w n]
  rfl

theorem digit_lt_digit {a b : Nat} (h : a < b) (hb : b < 10) :
    UInt8.ofNat (48 + a) < UInt8.ofNat (48 + b) := by
  rw [UInt8.lt_iff_toNat_lt, UInt8.toNat_ofNat', UInt8.toNat_ofNat']
  omega

theorem le_digit (d : Nat) : 46 ≤ UInt8.ofNat (48 + d % 10) := by
  rw [UInt8.le_iff_toNat_le, UInt8.toNat_ofNat']
  show 46 ≤ _
  omega

/-- Numbers of one width compare as their digits do, whatever follows. -/
theorem digitBytes_append_lt {w m n : Nat} (h : m < n) (hn : n < 10 ^ w) (xs ys : List UInt8) :
    digitBytes w m ++ xs < digitBytes w n ++ ys := by
  induction w generalizing m n xs ys with
  | zero => omega
  | succ w ih =>
    simp only [digitBytes, List.append_assoc, List.singleton_append]
    rcases Nat.lt_or_ge (m / 10) (n / 10) with hlt | hge
    · exact ih hlt (by omega) _ _
    · have heq : m / 10 = n / 10 := Nat.le_antisymm (Nat.div_le_div_right (Nat.le_of_lt h)) hge
      rw [heq]
      refine List.append_left_lt (List.cons_lt_cons_iff.2 (.inl (digit_lt_digit ?_ ?_))) <;> omega

/-! ## The texts of numbers -/

theorem bytes_ofList (cs : List Char) :
    bytes (String.ofList cs) = cs.flatMap String.utf8EncodeChar := by
  simp [bytes, String.toUTF8, List.utf8Encode]

theorem bytes_digit {d : Nat} (h : d < 10) :
    bytes (String.ofList [d.digitChar]) = [UInt8.ofNat (48 + d)] := by
  have hall : ∀ d < 10, String.utf8EncodeChar (Nat.digitChar d) = [UInt8.ofNat (48 + d)] := by
    decide
  rw [bytes_ofList, List.flatMap_singleton, hall d h]

theorem padded_succ {w : Nat} (hw : 0 < w) (n : Nat) :
    padded (w + 1) n = padded w (n / 10) ++ String.ofList [(n % 10).digitChar] := by
  unfold padded
  dsimp only
  rw [← String.ofList_append]
  congr 1
  rcases Nat.lt_or_ge n 10 with hlt | hge
  · have hzeros : List.replicate w '0' = List.replicate (w - 1) '0' ++ ['0'] := by
      rw [← List.replicate_succ', Nat.sub_add_cancel hw]
    rw [Nat.div_eq_of_lt hlt, Nat.mod_eq_of_lt hlt, Nat.toDigits_of_lt_base hlt, Nat.toDigits_zero]
    simp [hzeros]
  · rw [Nat.toDigits_of_base_le (by decide) hge]
    simp

theorem bytes_padded {w n : Nat} (hw : 0 < w) (hn : n < 10 ^ w) :
    bytes (padded w n) = digitBytes w n := by
  induction w generalizing n with
  | zero => omega
  | succ w ih =>
    rcases Nat.eq_zero_or_pos w with rfl | hpos
    · have hone : padded 1 n = String.ofList [n.digitChar] := by
        simp [padded, Nat.toDigits_of_lt_base (b := 10) (by omega)]
      rw [hone, bytes_digit (by omega), digitBytes, digitBytes, Nat.mod_eq_of_lt (by omega)]
      rfl
    · rw [padded_succ hpos, bytes_append, ih hpos (by omega),
        bytes_digit (Nat.mod_lt _ (by decide)), digitBytes]

/-- A number of one width and what follows it. -/
theorem padded_append_lt {w m n : Nat} (hw : 0 < w) (h : m < n) (hn : n < 10 ^ w)
    (xs ys : List UInt8) : bytes (padded w m) ++ xs < bytes (padded w n) ++ ys := by
  rw [bytes_padded hw (Nat.lt_trans h hn), bytes_padded hw hn]
  exact digitBytes_append_lt h hn xs ys

end Text

/-! ## Times of day -/

namespace Time

open Text

/-- What follows a time: nothing, or a byte less than every digit and less than a point. -/
def LowTail (tail : List UInt8) : Prop := ∀ b ∈ tail.head?, b < 46

theorem LowTail.lt_cons {tail : List UInt8} (h : LowTail tail) {b : UInt8} (hb : 46 ≤ b)
    (bs : List UInt8) : tail < b :: bs := by
  cases tail with
  | nil => exact List.nil_lt_cons _ _
  | cons a as =>
    have ha := h a rfl
    exact List.cons_lt_cons_iff.2 (.inl (UInt8.lt_of_lt_of_le ha hb))

theorem lowTail_nil : LowTail [] := by simp [LowTail]

theorem lowTail_offset : LowTail (bytes "+00:00") := by
  have hhead : (bytes "+00:00").head? = some 43 := by decide +kernel
  rw [LowTail, hhead]
  rintro b ⟨⟩
  decide

/-- A fraction is not written when it is zero; else it is written with a
    number of digits that is enough. -/
inductive FractionBytes (n : Nat) : List UInt8 → Prop where
  | none (h : n = 0) : FractionBytes n []
  | digits {w : Nat} (hw : 0 < w) (hw9 : w ≤ 9) (hn : n ≠ 0) (h : n % 10 ^ (9 - w) = 0) :
      FractionBytes n (46 :: digitBytes w (n / 10 ^ (9 - w)))

theorem fractionBytes_fractionText (t : Time) :
    FractionBytes t.subsecond (bytes t.fractionText) := by
  have hlt : t.subsecond < 10 ^ 9 := Nat.mod_lt _ (by decide)
  unfold fractionText
  dsimp only
  split
  · next hzero => exact .none hzero
  · next hn =>
    have hpoint : ∀ s : String, bytes ("." ++ s) = 46 :: bytes s := fun s => by
      rw [bytes_append]; rfl
    split
    · next h =>
      rw [hpoint, bytes_padded (by decide) (by simp only [Nat.pow_eq]; omega)]
      exact .digits (w := 3) (by decide) (by decide) hn h
    · split
      · next h =>
        rw [hpoint, bytes_padded (by decide) (by simp only [Nat.pow_eq]; omega)]
        exact .digits (w := 6) (by decide) (by decide) hn h
      · rw [hpoint, bytes_padded (by decide) hlt]
        simpa using FractionBytes.digits (w := 9) (by decide) (by decide) hn (Nat.mod_one _)

/-- The first digits of a fraction that is written with more of them. -/
theorem digitBytes_fraction {w j : Nat} (h : w + j ≤ 9) (n : Nat) :
    digitBytes (w + j) (n / 10 ^ (9 - (w + j))) =
      digitBytes w (n / 10 ^ (9 - w)) ++ digitBytes j (n / 10 ^ (9 - (w + j))) := by
  rw [digitBytes_add, Nat.div_div_eq_div_mul, ← Nat.pow_add,
    show 9 - (w + j) + j = 9 - w by omega]

theorem div_lt_of_fraction {w n : Nat} (hw : w ≤ 9) (hn : n < 10 ^ 9) :
    n / 10 ^ (9 - w) < 10 ^ w := by
  refine Nat.div_lt_of_lt_mul ?_
  rwa [← Nat.pow_add, Nat.sub_add_cancel hw]

/-- Fractions compare as their texts do, of whatever width, if what follows is
    low. -/
theorem FractionBytes.append_lt {m n : Nat} {xs ys tail : List UInt8} (hx : FractionBytes m xs)
    (hy : FractionBytes n ys) (htail : LowTail tail) (h : m < n) (hn : n < 10 ^ 9) :
    xs ++ tail < ys ++ tail := by
  cases hy with
  | none hzero => omega
  | @digits w hw hw9 hpos hnmod =>
  cases hx with
  | none => exact htail.lt_cons (by decide) _
  | @digits v hv hv9 hmpos hmmod =>
  rw [List.cons_append, List.cons_append]
  refine List.cons_lt_cons_iff.2 (.inr ⟨rfl, ?_⟩)
  rcases Nat.le_total w v with hle | hle
  · -- the greater one ends first: it differs in the digits that it has
    obtain ⟨j, rfl⟩ := Nat.exists_eq_add_of_le hle
    have hn' := Nat.div_mul_cancel (Nat.dvd_of_mod_eq_zero hnmod)
    have hlt : m / 10 ^ (9 - w) < n / 10 ^ (9 - w) :=
      (Nat.div_lt_iff_lt_mul (Nat.pow_pos (by decide))).2 (by rwa [hn'])
    rw [digitBytes_fraction hv9, List.append_assoc]
    exact digitBytes_append_lt hlt (div_lt_of_fraction hw9 hn) _ _
  · obtain ⟨j, rfl⟩ := Nat.exists_eq_add_of_le hle
    rw [digitBytes_fraction hw9, List.append_assoc]
    rcases Nat.lt_or_ge (m / 10 ^ (9 - v)) (n / 10 ^ (9 - v)) with hlt | hge
    · exact digitBytes_append_lt hlt (div_lt_of_fraction hv9 hn) _ _
    · -- the lesser one ends first, where the greater one has another digit
      have heq := Nat.le_antisymm (Nat.div_le_div_right (Nat.le_of_lt h)) hge
      have hm' := Nat.div_mul_cancel (Nat.dvd_of_mod_eq_zero hmmod)
      rw [← heq]
      refine List.append_left_lt ?_
      cases j with
      | zero =>
        have hn' := Nat.div_mul_cancel (Nat.dvd_of_mod_eq_zero hnmod)
        rw [Nat.add_zero, ← heq, hm'] at hn'
        omega
      | succ j =>
        rw [digitBytes_succ]
        exact htail.lt_cons (le_digit _) _

theorem Valid.bytes_text_lt {x y : Time} (hx : x.Valid) (hy : y.Valid) {tail : List UInt8}
    (htail : LowTail tail) (h : x.Before y) : bytes x.text ++ tail < bytes y.text ++ tail := by
  have hhour : y.hour < 10 ^ 2 := Nat.lt_trans hy.hour (by decide)
  have hminute : y.minute < 10 ^ 2 := Nat.lt_trans hy.minute (by decide)
  have hsecond : y.shownSecond < 10 ^ 2 := by
    have := hy.second
    have := hy.nanosecond
    have hpow : Nat.pow 10 9 = 1000000000 := rfl
    simp only [shownSecond, hpow] at *
    omega
  unfold text
  simp only [bytes_append, List.append_assoc]
  cases h.shownLt hx hy with
  | hour h => exact padded_append_lt (by decide) h hhour _ _
  | minute hh h =>
    rw [hh]
    iterate 2 refine List.append_left_lt ?_
    exact padded_append_lt (by decide) h hminute _ _
  | second hh hm h =>
    rw [hh, hm]
    iterate 4 refine List.append_left_lt ?_
    exact padded_append_lt (by decide) h hsecond _ _
  | subsecond hh hm hs h =>
    rw [hh, hm, hs]
    iterate 5 refine List.append_left_lt ?_
    exact (fractionBytes_fractionText x).append_lt (fractionBytes_fractionText y) htail h
      (Nat.mod_lt _ (by decide))

end Time

/-! ## Dates -/

namespace Date

open Text

theorem Valid.yearText_eq {d : Date} (h : d.Valid) :
    yearText d.year = padded 4 d.year.toNat := if_pos h.year

theorem monthLength_le (year month : Nat) : monthLength year month ≤ 31 := by
  unfold monthLength
  repeat' split
  all_goals decide

/-- A day before another has the lesser text, whatever follows. -/
theorem Valid.bytes_text_lt {x y : Date} (hx : x.Valid) (hy : y.Valid) (h : x.Before y)
    (xs ys : List UInt8) : bytes x.text ++ xs < bytes y.text ++ ys := by
  have hyear : y.year.toNat < 10 ^ 4 := by have := hy.year; omega
  have hmonth : y.month < 10 ^ 2 := Nat.lt_of_le_of_lt hy.month.2 (by decide)
  have hday : y.day < 10 ^ 2 :=
    Nat.lt_of_le_of_lt (Nat.le_trans hy.day.2 (monthLength_le _ _)) (by decide)
  unfold text
  rw [hx.yearText_eq, hy.yearText_eq]
  simp only [bytes_append, List.append_assoc]
  cases h.fieldsLt hx hy with
  | year h => exact padded_append_lt (by decide) (by have := hx.year; omega) hyear _ _
  | month he h =>
    rw [he]
    iterate 2 refine List.append_left_lt ?_
    exact padded_append_lt (by decide) h hmonth _ _
  | day he hm h =>
    rw [he, hm]
    iterate 4 refine List.append_left_lt ?_
    exact padded_append_lt (by decide) h hday _ _

end Date

/-! ## Moments -/

namespace DateTime

open Text

theorem trichotomy {x y : DateTime} (hx : x.Valid) (hy : y.Valid) :
    x.Before y ∨ x = y ∨ y.Before x := by
  rcases Date.trichotomy hx.1 hy.1 with h | hdate | h
  · exact .inl (.inl h)
  · rcases Time.trichotomy hx.2 hy.2 with h | htime | h
    · exact .inl (.inr ⟨hdate, h⟩)
    · cases x
      cases y
      simp_all
    · exact .inr (.inr (.inr ⟨hdate.symm, h⟩))
  · exact .inr (.inr (.inl h))

/-- A moment before another has the lesser text, with any text between day and
    time and with nothing or the offset at its end. -/
theorem Valid.bytes_lt {x y : DateTime} (hx : x.Valid) (hy : y.Valid) (h : x.Before y)
    (between : List UInt8) {tail : List UInt8} (htail : Time.LowTail tail) :
    bytes x.date.text ++ (between ++ (bytes x.time.text ++ tail)) <
      bytes y.date.text ++ (between ++ (bytes y.time.text ++ tail)) := by
  rcases h with h | ⟨hdate, h⟩
  · exact hx.1.bytes_text_lt hy.1 h _ _
  · rw [hdate]
    exact List.append_left_lt (List.append_left_lt (hx.2.bytes_text_lt hy.2 htail h))

end DateTime

/-! ## What is bound -/

variable {α : Type} {valid : α → Prop} {before : α → α → Prop} {value : α → Value}
  {text : α → String}

/-- Moments are bound as texts that sort as the moments do: one is before
    another if and only if its text is less by its bytes, and no two are bound
    as the same value. -/
def Sorts (valid : α → Prop) (before : α → α → Prop) (value : α → Value) : Prop :=
  ∀ x y, valid x → valid y → ∃ s t, value x = .text s ∧ value y = .text t ∧
    (before x y ↔ Text.bytes s < Text.bytes t) ∧ (x ≠ y → value x ≠ value y)

theorem Sorts.of_trichotomy (hvalue : ∀ x, value x = .text (text x))
    (htri : ∀ {x y}, valid x → valid y → before x y ∨ x = y ∨ before y x)
    (hlt : ∀ {x y}, valid x → valid y → before x y → Text.bytes (text x) < Text.bytes (text y)) :
    Sorts valid before value := by
  intro x y hx hy
  refine ⟨text x, text y, hvalue x, hvalue y, ⟨hlt hx hy, fun h => ?_⟩, fun hne heq => ?_⟩
  · rcases htri hx hy with hxy | rfl | hyx
    · exact hxy
    · exact absurd h (List.lt_irrefl _)
    · exact absurd h (List.lt_asymm (hlt hy hx hyx))
  · have htext : text x = text y := by simpa only [hvalue, Value.text.injEq] using heq
    rcases htri hx hy with hxy | hxy | hyx
    · exact List.lt_irrefl _ (htext ▸ hlt hx hy hxy)
    · exact hne hxy
    · exact List.lt_irrefl _ (htext ▸ hlt hy hx hyx)

/-- Dates, times of day, and dates with times, of no zone or of universal time:
    all of them are bound as texts that sort in the order of time. -/
theorem chronological :
    Sorts Date.Valid Date.Before Value.ofDate ∧
    Sorts Time.Valid Time.Before Value.ofTime ∧
    Sorts DateTime.Valid DateTime.Before Value.ofDateTime ∧
    Sorts DateTime.Valid DateTime.Before Value.ofUtc := by
  refine ⟨.of_trichotomy (fun _ => rfl) Date.trichotomy fun hx hy h => ?_,
    .of_trichotomy (fun _ => rfl) Time.trichotomy fun hx hy h => ?_,
    .of_trichotomy (fun _ => rfl) DateTime.trichotomy fun hx hy h => ?_,
    .of_trichotomy (fun _ => rfl) DateTime.trichotomy fun hx hy h => ?_⟩
  · simpa using hx.bytes_text_lt hy h [] []
  · simpa using hx.bytes_text_lt hy Time.lowTail_nil h
  · simpa [DateTime.text] using hx.bytes_lt hy h (Text.bytes " ") Time.lowTail_nil
  · simpa [DateTime.utcText] using hx.bytes_lt hy h (Text.bytes "T") Time.lowTail_offset

/-- Half a second into the leap second at the end of 2016 is before the new
    year, though the texts differ in length. -/
theorem chronological_leap_second :
    ∃ s t, Value.ofUtc ⟨⟨2016, 12, 31⟩, ⟨23, 59, 59, 1500000000⟩⟩ = .text s ∧
      Value.ofUtc ⟨⟨2017, 1, 1⟩, ⟨0, 0, 0, 0⟩⟩ = .text t ∧ Text.bytes s < Text.bytes t := by
  have hleap : Date.Valid ⟨2016, 12, 31⟩ := ⟨by decide, by decide, by decide⟩
  have hnew : Date.Valid ⟨2017, 1, 1⟩ := ⟨by decide, by decide, by decide⟩
  have hsecond : Time.Valid ⟨23, 59, 59, 1500000000⟩ :=
    ⟨by decide, by decide, by decide, by decide, by decide⟩
  have hmidnight : Time.Valid ⟨0, 0, 0, 0⟩ :=
    ⟨by decide, by decide, by decide, by decide, by decide⟩
  obtain ⟨s, t, hs, ht, hiff, -⟩ := chronological.2.2.2 ⟨⟨2016, 12, 31⟩, ⟨23, 59, 59, 1500000000⟩⟩
    ⟨⟨2017, 1, 1⟩, ⟨0, 0, 0, 0⟩⟩ ⟨hleap, hsecond⟩ ⟨hnew, hmidnight⟩
  exact ⟨s, t, hs, ht, hiff.1 (.inl (Date.before_of_year_lt hleap hnew (by decide)))⟩

end BoundSql
