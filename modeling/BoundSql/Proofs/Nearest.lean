/-
  The integer part of the number nearest a quotient.

  * `roundedWhole n d` is that integer part, said without bit patterns: the
    integer part of `n / d` itself, or the next integer where that is nearer
    than the 53 bits of a number can tell; from `2^53` on a multiple of the
    last place;
  * `roundHalfEven_unit`: rounding in the last place and dropping the fraction
    gives it, whatever the place of the least positive number;
  * `Binary64.significand_mul_unit`: a pattern stands for what was put in it;
  * `Binary64.toInt64_nearest` and `Binary64.toInt64_ofDecimal`: the integer
    part of the nearest number, and of a decimal with a fraction, in 64 bits.
-/
import BoundSql.Decimal.Numeral
import Mathlib.Algebra.Group.Nat.Defs
import Mathlib.Data.Nat.Size

namespace BoundSql

namespace Binary64

/-! ## Rounding to a natural -/

theorem roundHalfEven_mul_mul (a d : Nat) {c : Nat} (hc : 0 < c) :
    roundHalfEven (a * c) (d * c) = roundHalfEven a d := by
  have hdouble : 2 * (a % d * c) = 2 * (a % d) * c := (Nat.mul_assoc _ _ _).symm
  unfold roundHalfEven
  dsimp only
  rw [Nat.mul_div_mul_right _ _ hc, Nat.mul_mod_mul_right, hdouble]
  simp only [Nat.mul_lt_mul_right hc]

theorem div_le_roundHalfEven (a d : Nat) : a / d ≤ roundHalfEven a d := by
  rcases roundHalfEven_eq_or a d with h | h <;> omega

theorem roundHalfEven_le (a d : Nat) : roundHalfEven a d ≤ a / d + 1 := by
  rcases roundHalfEven_eq_or a d with h | h <;> omega

/-- An even natural is reached from half a unit below it on. -/
theorem le_roundHalfEven_iff {a d m : Nat} (hd : 0 < d) (hm : m % 2 = 0) :
    m ≤ roundHalfEven a d ↔ 2 * (m * d) ≤ 2 * a + d := by
  have hdiv := Nat.div_add_mod' a d
  have hr := Nat.mod_lt a hd
  rcases Nat.lt_trichotomy m (a / d + 1) with hlt | rfl | hgt
  · have hle := div_le_roundHalfEven a d
    have hmul := Nat.mul_le_mul_right d (Nat.le_of_lt_succ hlt)
    constructor <;> intro <;> omega
  · rw [Nat.succ_mul (a / d)]
    unfold roundHalfEven
    dsimp only
    split
    · omega
    · split <;> omega
  · have hle := roundHalfEven_le a d
    have hmul := Nat.mul_le_mul_right d (Nat.succ_le_of_lt hgt)
    rw [Nat.succ_mul, Nat.succ_mul] at hmul
    constructor <;> intro <;> omega

/-! ## The integer part -/

/-- The integer part of the number nearest `n / d`.

    Below `2^52` it is that of `n / d`, or the next integer if that is at most
    half a last place away. -/
def roundedWhole (n d : Nat) : Nat :=
  let size := (n / d).size
  if size ≤ 52 then
    if 2 ^ (54 - size) * (d - n % d) ≤ d then n / d + 1 else n / d
  else roundHalfEven n (d * 2 ^ (size - 53)) * 2 ^ (size - 53)

theorem roundedWhole_zero {d : Nat} (hd : 0 < d) : roundedWhole 0 d = 0 := by
  simp [roundedWhole]
  omega

/-- A quotient below one half has no integer part, rounded or not. -/
theorem roundedWhole_of_double_lt {n d : Nat} (h : 2 * n < d) : roundedWhole n d = 0 := by
  have hn : n < d := by omega
  unfold roundedWhole
  simp only [Nat.div_eq_of_lt hn, Nat.mod_eq_of_lt hn, Nat.size_zero]
  rw [if_pos (by decide), if_neg (by omega)]

theorem le_roundedWhole {n d : Nat} (h : 2 ^ 63 ≤ n / d) : 2 ^ 63 ≤ roundedWhole n d := by
  have hsize : 63 < (n / d).size := Nat.lt_size.2 h
  have hpow : 2 ^ ((n / d).size - 1) ≤ n / d := Nat.lt_size.1 (by omega)
  have hsplit : (n / d).size - 1 = 52 + ((n / d).size - 53) := by omega
  unfold roundedWhole
  dsimp only
  rw [if_neg (by omega)]
  generalize (n / d).size - 53 = k at *
  calc 2 ^ 63
    _ ≤ 2 ^ (52 + k) := Nat.pow_le_pow_right (by decide) (by omega)
    _ = 2 ^ 52 * 2 ^ k := Nat.pow_add ..
    _ ≤ n / (d * 2 ^ k) * 2 ^ k := by
      refine Nat.mul_le_mul_right _ ?_
      rw [← Nat.div_div_eq_div_mul, Nat.le_div_iff_mul_le (Nat.two_pow_pos k), ← Nat.pow_add,
        ← hsplit]
      exact hpow
    _ ≤ roundHalfEven n (d * 2 ^ k) * 2 ^ k := Nat.mul_le_mul_right _ (div_le_roundHalfEven ..)

/-- Rounding to binary places and then dropping them. -/
theorem roundHalfEven_mul_two_pow_div {n d j : Nat} (hd : 0 < d) (hj : 0 < j) :
    roundHalfEven (n * 2 ^ j) d / 2 ^ j =
      if 2 ^ (j + 1) * (d - n % d) ≤ d then n / d + 1 else n / d := by
  have heven (m : Nat) : m * 2 ^ j % 2 = 0 := by
    rw [← Nat.sub_add_cancel hj, Nat.pow_succ, ← Nat.mul_assoc]
    exact Nat.mul_mod_left _ _
  have hreach (m : Nat) : m ≤ roundHalfEven (n * 2 ^ j) d / 2 ^ j ↔
      2 * (m * d * 2 ^ j) ≤ 2 * (n * 2 ^ j) + d := by
    rw [Nat.le_div_iff_mul_le (Nat.two_pow_pos _), le_roundHalfEven_iff hd (heven m),
      Nat.mul_right_comm]
  -- how far the integers around `n / d` are from it, in units of `1 / d`
  obtain ⟨gap, hgap⟩ := Nat.exists_eq_add_of_lt (Nat.mod_lt n hd)
  have hdiv := Nat.div_add_mod' n d
  have hnext : (n / d + 1) * d = n + (gap + 1) := by rw [Nat.succ_mul]; omega
  have hbelow : n / d * d * 2 ^ j ≤ n * 2 ^ j := Nat.mul_le_mul_right _ (Nat.div_mul_le_self n d)
  have hsmall : 0 < (gap + 1) * 2 ^ j := Nat.mul_pos (Nat.succ_pos gap) (Nat.two_pow_pos j)
  have hlarge : d ≤ d * 2 ^ j := Nat.le_mul_of_pos_right d (Nat.two_pow_pos j)
  have hcond : 2 ^ (j + 1) * (d - n % d) = 2 * ((gap + 1) * 2 ^ j) := by
    rw [show d - n % d = gap + 1 by omega, Nat.pow_succ]
    ac_rfl
  have h0 := hreach (n / d)
  have h1 := hreach (n / d + 1)
  have h2 := hreach (n / d + 1 + 1)
  rw [hnext, Nat.add_mul] at h1
  rw [Nat.succ_mul (n / d + 1), hnext, Nat.add_mul, Nat.add_mul] at h2
  rw [hcond]
  split <;> omega

section Places

variable {n d e : Nat}

theorem mul_two_pow_div_div (n d e : Nat) : n * 2 ^ e / d / 2 ^ e = n / d := by
  rw [Nat.div_div_eq_div_mul, Nat.mul_div_mul_right _ _ (Nat.two_pow_pos e)]

theorem size_mul_two_pow_div_le (n d e : Nat) : (n * 2 ^ e / d).size ≤ (n / d).size + e := by
  rw [Nat.size_le, Nat.pow_add, ← Nat.div_lt_iff_lt_mul (Nat.two_pow_pos e), mul_two_pow_div_div]
  exact Nat.lt_size_self _

/-- The size of a quotient in units of `2 ^ (-e)`, from that of its integer
    part. -/
theorem size_mul_two_pow_div (h : n / d ≠ 0) : (n * 2 ^ e / d).size = (n / d).size + e := by
  refine Nat.le_antisymm (size_mul_two_pow_div_le n d e) ?_
  have hpos : 0 < (n / d).size := Nat.size_pos.2 (Nat.pos_of_ne_zero h)
  have hlow : 2 ^ ((n / d).size - 1) ≤ n / d := Nat.lt_size.1 (by omega)
  rw [← mul_two_pow_div_div n d e, Nat.le_div_iff_mul_le (Nat.two_pow_pos e), ← Nat.pow_add,
    mul_two_pow_div_div, ← Nat.lt_size] at hlow
  omega

theorem double_lt_of_size_lt (hd : 0 < d) (h : (n * 2 ^ e / d).size < e) : 2 * n < d := by
  cases e with
  | zero => omega
  | succ e =>
    have hlt := Nat.size_le.1 (Nat.le_of_lt_succ h)
    rw [Nat.div_lt_iff_lt_mul hd, Nat.pow_succ', ← Nat.mul_assoc, Nat.mul_comm (2 ^ e) d] at hlt
    have := Nat.lt_of_mul_lt_mul_right hlt
    omega

/-- Whether the next integer is at most half a last place away, from the places
    between the last one and the point, or from the integer part. -/
theorem near_iff {j : Nat} (hd : 0 < d) (he : 53 ≤ e) (hsmall : (n / d).size ≤ 52)
    (hplace : e = j + ((n * 2 ^ e / d).size - 53)) :
    2 ^ (j + 1) * (d - n % d) ≤ d ↔ 2 ^ (54 - (n / d).size) * (d - n % d) ≤ d := by
  have hle := size_mul_two_pow_div_le n d e
  by_cases hwhole : n / d = 0
  · rw [hwhole, Nat.size_zero] at hle ⊢
    rcases Nat.lt_or_ge (n * 2 ^ e / d).size e with hlt | hge
    · -- below one half there are more places, and no integer is near
      have hhalf := double_lt_of_size_lt hd hlt
      have hfar (i : Nat) : ¬ 2 ^ (i + 1) * (d - n % d) ≤ d := by
        have := Nat.le_mul_of_pos_left (2 * (d - n % d)) (Nat.two_pow_pos i)
        rw [Nat.pow_succ, Nat.mul_assoc, Nat.mod_eq_of_lt (by omega)] at *
        omega
      exact iff_of_false (hfar j) (hfar 53)
    · rw [show j = 53 by omega]
  · have hsize := size_mul_two_pow_div (e := e) hwhole
    rw [show j + 1 = 54 - (n / d).size by omega]

/-- Rounding in the last place and dropping the fraction, when the places go
    down to `2 ^ (-e)`. -/
theorem roundHalfEven_unit (hd : 0 < d) (he : 53 ≤ e) :
    roundHalfEven (n * 2 ^ e) (d * 2 ^ ((n * 2 ^ e / d).size - 53)) *
      2 ^ ((n * 2 ^ e / d).size - 53) / 2 ^ e = roundedWhole n d := by
  unfold roundedWhole
  dsimp only
  split
  · next hsmall =>
    have hle := size_mul_two_pow_div_le n d e
    obtain ⟨j, hj, hplace⟩ : ∃ j, 0 < j ∧ e = j + ((n * 2 ^ e / d).size - 53) :=
      ⟨e - ((n * 2 ^ e / d).size - 53), by omega, by omega⟩
    have hnear := near_iff hd he hsmall hplace
    generalize (n * 2 ^ e / d).size - 53 = u at *
    subst hplace
    rw [Nat.pow_add, ← Nat.mul_assoc, roundHalfEven_mul_mul _ _ (Nat.two_pow_pos u),
      Nat.mul_div_mul_right _ _ (Nat.two_pow_pos u), roundHalfEven_mul_two_pow_div hd hj]
    simp only [hnear]
  · next hlarge =>
    have hsize := size_mul_two_pow_div (e := e) (n := n) (d := d)
      (fun h => by rw [h, Nat.size_zero] at hlarge; omega)
    obtain ⟨k, hk⟩ : ∃ k, (n / d).size = 53 + k := Nat.exists_eq_add_of_le (by omega)
    rw [hsize, hk, show 53 + k + e - 53 = k + e by omega, Nat.add_sub_cancel_left, Nat.pow_add,
      ← Nat.mul_assoc, ← Nat.mul_assoc, roundHalfEven_mul_mul _ _ (Nat.two_pow_pos e),
      Nat.mul_div_cancel _ (Nat.two_pow_pos e)]

end Places

/-! ## Patterns -/

section Pattern

variable (negative : Bool) {p : Nat}

theorem toNat_bits_ofMagnitude (hp : p < 2 ^ 63) :
    (ofMagnitude negative p).bits.toNat = (if negative then 2 ^ 63 else 0) + p := by
  unfold ofMagnitude
  rw [UInt64.toNat_ofNat']
  refine Nat.mod_eq_of_lt ?_
  cases negative <;> simp <;> omega

theorem negative_ofMagnitude (hp : p < 2 ^ 63) : (ofMagnitude negative p).negative = negative := by
  rw [Binary64.negative, toNat_bits_ofMagnitude negative hp]
  cases negative with
  | false => simpa using hp
  | true => simp

theorem exponentField_ofMagnitude (hp : p < 2 ^ 63) :
    (ofMagnitude negative p).exponentField = p / 2 ^ 52 := by
  rw [exponentField, toNat_bits_ofMagnitude negative hp]
  cases negative <;> simp <;> omega

theorem fraction_ofMagnitude (hp : p < 2 ^ 63) :
    (ofMagnitude negative p).fraction = p % 2 ^ 52 := by
  rw [fraction, toNat_bits_ofMagnitude negative hp]
  cases negative with
  | false => simp
  | true => simp; omega

/-- A pattern stands for the significand and the place that were put in it,
    also where the significand is `2 ^ 53` and the pattern that of a power of
    two. -/
theorem significand_mul_unit {m u : Nat} (hm : m ≤ 2 ^ 53) (hu : u = 0 ∨ 2 ^ 52 ≤ m)
    (hp : u * 2 ^ 52 + m < 2 ^ 63) :
    (ofMagnitude negative (u * 2 ^ 52 + m)).significand *
      2 ^ (ofMagnitude negative (u * 2 ^ 52 + m)).unit = m * 2 ^ u := by
  have hfield := exponentField_ofMagnitude negative hp
  have hfraction := fraction_ofMagnitude negative hp
  unfold significand unit
  rw [hfield, hfraction]
  rcases Nat.lt_or_ge m (2 ^ 52) with hlt | hge
  · obtain rfl : u = 0 := hu.resolve_right (by omega)
    rw [if_pos (by omega), show (0 * 2 ^ 52 + m) / 2 ^ 52 - 1 = 0 by omega,
      show (0 * 2 ^ 52 + m) % 2 ^ 52 = m by omega]
  · rw [if_neg (by omega)]
    rcases Nat.lt_or_ge m (2 ^ 53) with hlt | hmax
    · rw [show (u * 2 ^ 52 + m) / 2 ^ 52 - 1 = u by omega,
        show Nat.pow 2 52 + (u * 2 ^ 52 + m) % 2 ^ 52 = m by simp only [Nat.pow_eq]; omega]
    · obtain rfl : m = 2 ^ 53 := Nat.le_antisymm hm hmax
      have hrest : (u * 2 ^ 52 + 2 ^ 53) % 2 ^ 52 = 0 := by omega
      rw [show (u * 2 ^ 52 + 2 ^ 53) / 2 ^ 52 - 1 = u + 1 by omega, hrest, Nat.add_zero,
        Nat.pow_eq, Nat.pow_succ 2 u]
      omega

end Pattern

/-! ## Integers of 64 bits -/

section Clamped

variable (negative : Bool)

/-- From `2 ^ 63` on all sizes are moved to the same integer. -/
theorem clampInt64_signed_of_le {m n : Nat} (hm : 2 ^ 63 ≤ m) (hn : 2 ^ 63 ≤ n) :
    clampInt64 (Numeral.signed negative m) = clampInt64 (Numeral.signed negative n) := by
  unfold clampInt64 Numeral.signed
  congr 1
  cases negative <;> simp <;> omega

theorem clampInt64_of_fitsInt64 {i : Int} (h : Numeral.fitsInt64 i = true) :
    clampInt64 i = Int64.ofInt i := by
  simp only [Numeral.fitsInt64, Bool.and_eq_true, decide_eq_true_eq] at h
  unfold clampInt64
  congr 1
  omega

/-- An integer that does not fit in 64 bits is at least as large as `2 ^ 63`. -/
theorem le_of_not_fitsInt64 {n : Nat}
    (h : Numeral.fitsInt64 (Numeral.signed negative n) = false) : 2 ^ 63 ≤ n := by
  refine Nat.le_of_not_lt fun hlt => ?_
  have hfits : Numeral.fitsInt64 (Numeral.signed negative n) = true := by
    cases negative <;> simp [Numeral.fitsInt64, Numeral.signed] <;> omega
  rw [hfits] at h
  exact Bool.noConfusion h

theorem toInt64_infinity :
    (infinity negative).toInt64 = clampInt64 (Numeral.signed negative (2 ^ 63)) := by
  cases negative <;> decide +kernel

theorem toInt64_ofMagnitude_zero : (ofMagnitude negative 0).toInt64 = 0 := by
  cases negative <;> decide +kernel

end Clamped

/-! ## The nearest number -/

section Nearest

variable (negative : Bool) (n : Nat) {d : Nat}

/-- The number of binary places down to the least positive number. -/
def leastPlace : Nat := 1074

theorem leastPlace_eq : 1074 = leastPlace := rfl

/-- The place that `nearest` rounds in, counted from that of the least positive
    number. -/
def lastPlace (n d : Nat) : Nat := (n * 2 ^ leastPlace / d).size - 53

/-- The significand that `nearest` rounds to. -/
def rounded (n d : Nat) : Nat := roundHalfEven (n * 2 ^ leastPlace) (d * 2 ^ lastPlace n d)

theorem nearest_eq (n d : Nat) :
    nearest n d = min infinityBits (lastPlace n d * 2 ^ 52 + rounded n d) := by
  have hsize (a : Nat) : a.log2 + 1 - 53 = a.size - 53 := by
    rcases Nat.eq_zero_or_pos a with rfl | ha
    · rw [Nat.size_zero]; rfl
    · have hlt : a.log2 < a.size := (Nat.log2_lt (Nat.ne_of_gt ha)).2 (Nat.lt_size_self a)
      have hle : a.size ≤ a.log2 + 1 := Nat.size_le.2 Nat.lt_log2_self
      omega
  unfold nearest rounded lastPlace
  rw [leastPlace_eq]
  simp only [Nat.pow_eq, hsize]

theorem div_lastPlace (n d : Nat) :
    n * 2 ^ leastPlace / (d * 2 ^ lastPlace n d) = n * 2 ^ leastPlace / d / 2 ^ lastPlace n d :=
  (Nat.div_div_eq_div_mul ..).symm

theorem rounded_le (n d : Nat) : rounded n d ≤ 2 ^ 53 := by
  have hlt : n * 2 ^ leastPlace / d / 2 ^ lastPlace n d < 2 ^ 53 := by
    rw [Nat.div_lt_iff_lt_mul (Nat.two_pow_pos _), ← Nat.pow_add, ← Nat.size_le]
    unfold lastPlace
    omega
  have hle := roundHalfEven_le (n * 2 ^ leastPlace) (d * 2 ^ lastPlace n d)
  rw [div_lastPlace] at hle
  exact Nat.le_trans hle hlt

/-- Unless it is that of the least positive number, the last place is the one
    that leaves 53 bits. -/
theorem lastPlace_eq_zero_or (n d : Nat) : lastPlace n d = 0 ∨ 2 ^ 52 ≤ rounded n d := by
  rcases Nat.eq_zero_or_pos (lastPlace n d) with hzero | hpos
  · exact .inl hzero
  · refine .inr (Nat.le_trans ?_ (div_le_roundHalfEven _ _))
    rw [div_lastPlace, Nat.le_div_iff_mul_le (Nat.two_pow_pos _), ← Nat.pow_add, ← Nat.lt_size]
    unfold lastPlace at *
    omega

theorem rounded_mul_two_pow_div (hd : 0 < d) :
    rounded n d * 2 ^ lastPlace n d / 2 ^ leastPlace = roundedWhole n d :=
  roundHalfEven_unit (e := leastPlace) hd (by decide)

/-- Beyond the finite numbers there are only those beyond 64 bits. -/
theorem le_roundedWhole_of_overflow (hd : 0 < d)
    (h : infinityBits ≤ lastPlace n d * 2 ^ 52 + rounded n d) : 2 ^ 63 ≤ roundedWhole n d := by
  have hle := rounded_le n d
  have hplace : 2045 ≤ lastPlace n d := by
    simp only [infinityBits, Nat.pow_eq] at h
    omega
  have hlow := (lastPlace_eq_zero_or n d).resolve_left (by omega)
  rw [← rounded_mul_two_pow_div n hd, Nat.le_div_iff_mul_le (Nat.two_pow_pos leastPlace),
    ← Nat.pow_add]
  calc 2 ^ (63 + leastPlace)
    _ ≤ 2 ^ (52 + lastPlace n d) := Nat.pow_le_pow_right (by decide) (by unfold leastPlace; omega)
    _ = 2 ^ 52 * 2 ^ lastPlace n d := Nat.pow_add ..
    _ ≤ rounded n d * 2 ^ lastPlace n d := Nat.mul_le_mul_right _ hlow

theorem toInt64_ofMagnitude {p : Nat} (hp : p < infinityBits) :
    let x := ofMagnitude negative p
    x.toInt64 =
      clampInt64 (Numeral.signed negative (x.significand * 2 ^ x.unit / 2 ^ leastPlace)) := by
  intro x
  have hlt : p < 2047 * 2 ^ 52 := by simpa [infinityBits] using hp
  have hfield : (ofMagnitude negative p).exponentField ≠ 2047 := by
    rw [exponentField_ofMagnitude negative (by omega)]
    omega
  have hnan : (ofMagnitude negative p).isNaN = false := by simp [isNaN, hfield]
  have hinfinite : (ofMagnitude negative p).isInfinite = false := by simp [isInfinite, hfield]
  have hnegative : (ofMagnitude negative p).negative = negative :=
    negative_ofMagnitude negative (by omega)
  unfold toInt64 truncate
  rw [hnan, hinfinite, hnegative, leastPlace_eq]
  simp only [Bool.false_eq_true, if_false, Nat.pow_eq, Numeral.signed]

/-- The integer part of the number nearest a quotient, clamped to 64 bits. -/
theorem toInt64_nearest (hd : 0 < d) : (ofMagnitude negative (nearest n d)).toInt64 =
    clampInt64 (Numeral.signed negative (roundedWhole n d)) := by
  rw [nearest_eq]
  rcases Nat.lt_or_ge (lastPlace n d * 2 ^ 52 + rounded n d) infinityBits with hlt | hge
  · have hbits : lastPlace n d * 2 ^ 52 + rounded n d < 2 ^ 63 :=
      Nat.lt_trans hlt (by decide)
    rw [Nat.min_eq_right (Nat.le_of_lt hlt), toInt64_ofMagnitude negative hlt,
      significand_mul_unit negative (rounded_le n d) (lastPlace_eq_zero_or n d) hbits,
      rounded_mul_two_pow_div n hd]
  · rw [Nat.min_eq_left hge]
    exact (toInt64_infinity negative).trans
      (clampInt64_signed_of_le negative (Nat.le_refl _) (le_roundedWhole_of_overflow n hd hge))

/-- The integer part of the number nearest a decimal with `k` places, clamped
    to 64 bits. -/
theorem toInt64_ofDecimal (k : Nat) : (ofDecimal negative n (0 - k)).toInt64 =
    clampInt64 (Numeral.signed negative (roundedWhole n (10 ^ k))) := by
  have hd : 0 < 10 ^ k := Nat.pow_pos (by decide)
  have hzero : clampInt64 (Numeral.signed negative 0) = 0 := by cases negative <;> decide
  unfold ofDecimal
  dsimp only
  split
  · next hn => rw [hn, roundedWhole_zero hd, toInt64_ofMagnitude_zero, hzero]
  split
  · next hplaces =>
    -- the number has more digits before the point than 64 bits hold
    have hlen : 10 ^ (20 + k) ≤ n := by
      refine Nat.le_of_not_lt fun hlt => ?_
      have := (Nat.length_toDigits_le_iff (by decide) (by omega)).2 hlt
      omega
    have hwhole : 2 ^ 63 ≤ n / 10 ^ k := by
      rw [Nat.le_div_iff_mul_le hd]
      rw [Nat.pow_add] at hlen
      exact Nat.le_trans (Nat.mul_le_mul_right _ (by decide)) hlen
    exact (toInt64_infinity negative).trans
      (clampInt64_signed_of_le negative (Nat.le_refl _) (le_roundedWhole hwhole))
  split
  · next hplaces =>
    -- the number begins with 400 zeros after the point
    have hlen : 10 * n < 10 ^ k := by
      obtain ⟨i, rfl⟩ : ∃ i, k = i + 1 := ⟨k - 1, by omega⟩
      have hlt := (Nat.length_toDigits_le_iff (n := n) (k := i) (b := 10) (by decide) (by omega)).1
        (by omega)
      rw [Nat.pow_succ']
      exact Nat.mul_lt_mul_of_pos_left hlt (by decide)
    rw [toInt64_ofMagnitude_zero, roundedWhole_of_double_lt (by omega), hzero]
  split
  · next hexp =>
    obtain rfl : k = 0 := by omega
    simpa using toInt64_nearest negative n (d := 1) (by decide)
  · simpa using toInt64_nearest negative n hd

end Nearest

end Binary64

end BoundSql
