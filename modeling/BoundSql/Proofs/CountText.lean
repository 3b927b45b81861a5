/-
  What a count makes of numeric text.

  * `NumericText` is the text: blanks, a sign, digits, a fraction, blanks; it
    stands for `coefficient · 10^(-places)`;
  * `NumericText.trim_text`, `readInt64?_number` and `readBinary64?_number`: of
    the two ways to read it, text with a fraction goes the second, through a
    floating point number;
  * `Query.count_numericText`: without a fraction the count is the integer, moved
    to 64 bits; with one it is the integer part of the nearest floating point
    number, which can be the next integer (`Query.count_rounds_up`).
-/
import BoundSql.Connection.Scripted
import BoundSql.Proofs.CallOrder
import BoundSql.Proofs.Nearest
import BoundSql.Proofs.NumberText

namespace BoundSql

/-! ## The text -/

/-- The sign in front of a number, which may be missing. -/
inductive SignMark where
  | none
  | plus
  | minus
deriving DecidableEq

namespace SignMark

def chars : SignMark → List Char
  | none => []
  | plus => ['+']
  | minus => ['-']

def negative : SignMark → Bool
  | minus => true
  | _ => false

end SignMark

/-- Numeric text: blanks, a sign if there is one, digits, a point with digits if
    there is one, and blanks. -/
structure NumericText where
  before : List Char
  sign : SignMark
  whole : List Char
  fraction : Option (List Char)
  after : List Char
  blank_before : ∀ c ∈ before, Text.isBlank c = true
  digits_whole : Digits whole
  digits_fraction : ∀ ds ∈ fraction, Digits ds
  blank_after : ∀ c ∈ after, Text.isBlank c = true

namespace NumericText

variable (t : NumericText)

/-- The point and the digits after it. -/
def pointText : List Char :=
  match t.fraction with
  | none => []
  | some ds => '.' :: ds

/-- The text between the blanks. -/
def number : List Char := t.sign.chars ++ (t.whole ++ t.pointText)

/-- The text. -/
def text : String := String.ofList (t.before ++ (t.number ++ t.after))

/-- The digits after the point. -/
def decimals : List Char := t.fraction.getD []

/-- The number of digits after the point. -/
def places : Nat := t.decimals.length

/-- All digits as one natural: the number is that many units of the last
    digit. -/
def coefficient : Nat := Numeral.value (t.whole ++ t.decimals)

/-- The number without its fraction, moved to 64 bits. -/
def truncated : Int64 :=
  Binary64.clampInt64 (Numeral.signed t.sign.negative (t.coefficient / 10 ^ t.places))

/-- The nearest floating point number without its fraction, moved to 64 bits. -/
def roundedTruncated : Int64 :=
  Binary64.clampInt64
    (Numeral.signed t.sign.negative (Binary64.roundedWhole t.coefficient (10 ^ t.places)))

/-- Floating point numbers tell the number from the next integer: below `2^52`
    that is more than half a last place away. -/
structure Apart : Prop where
  small : t.coefficient / 10 ^ t.places < 2 ^ 52
  gap : 10 ^ t.places < 2 ^ (54 - (t.coefficient / 10 ^ t.places).size) *
    (10 ^ t.places - t.coefficient % 10 ^ t.places)

variable {t}

/-- Rounding to a floating point number then leaves the integer part as it is. -/
theorem truncated_of_apart (h : t.Apart) : t.roundedTruncated = t.truncated := by
  have hsize : (t.coefficient / 10 ^ t.places).size ≤ 52 := Nat.size_le.2 h.small
  unfold roundedTruncated truncated Binary64.roundedWhole
  simp only [if_pos hsize, if_neg (Nat.not_le_of_lt h.gap)]

end NumericText

/-! ## Blanks -/

namespace Text

theorem isBlank_of_isDigit {c : Char} (h : c.isDigit = true) : isBlank c = false := by
  simp only [Char.isDigit, Bool.and_eq_true, decide_eq_true_eq, ge_iff_le,
    UInt32.le_iff_toNat_le] at h
  obtain ⟨hlow, hhigh⟩ : 48 ≤ c.toNat ∧ c.toNat ≤ 57 := h
  simp [isBlank]
  omega

end Text

/-! ## Reading -/

namespace NumericText

variable (t : NumericText)

theorem noDigit_pointText : NoDigit t.pointText := by
  unfold pointText
  split <;> simp [NoDigit]

theorem mem_number {c : Char} (h : c ∈ t.number) :
    c = '+' ∨ c = '-' ∨ c = '.' ∨ c.isDigit = true := by
  simp only [number, List.mem_append] at h
  rcases h with h | h | h
  · cases hsign : t.sign with
    | none => simp [SignMark.chars, hsign] at h
    | plus => simp_all [SignMark.chars]
    | minus => simp_all [SignMark.chars]
  · exact .inr (.inr (.inr (t.digits_whole.isDigit c h)))
  · cases hfraction : t.fraction with
    | none => simp [pointText, hfraction] at h
    | some ds =>
      rw [pointText, hfraction] at h
      rcases List.mem_cons.1 h with rfl | hc
      · exact .inr (.inr (.inl rfl))
      · exact .inr (.inr (.inr ((t.digits_fraction ds hfraction).isDigit c hc)))

theorem trim_text : Text.trim t.text.toList = t.number := by
  have hne : t.number ≠ [] := by simp [number, t.digits_whole.nonempty]
  rw [text, String.toList_ofList, Text.trim]
  refine Text.trimBy_append t.blank_before hne (fun c hc => ?_) t.blank_after
  rcases t.mem_number hc with rfl | rfl | rfl | hdigit
  · decide
  · decide
  · decide
  · exact Text.isBlank_of_isDigit hdigit

theorem splitSign_number :
    Numeral.splitSign t.number = (t.sign.negative, t.whole ++ t.pointText) := by
  unfold number
  cases t.sign with
  | none => exact Numeral.splitSign_digits_append t.digits_whole _
  | plus => rfl
  | minus => rfl

/-- Text with a fraction is not read as an integer. -/
theorem readInt64?_number_of_fraction {ds : List Char} (h : t.fraction = some ds) :
    Numeral.readInt64? t.number = none := by
  have hpoint : (t.whole ++ t.pointText).all Char.isDigit = false := by
    simp [pointText, h]
  unfold Numeral.readInt64?
  rw [splitSign_number]
  simp [hpoint]

/-- Text without a fraction is read as the integer that it writes, if it fits. -/
theorem readInt64?_number (h : t.fraction = none) : Numeral.readInt64? t.number =
    if Numeral.fitsInt64 (Numeral.signed t.sign.negative t.coefficient) then
      some (Int64.ofInt (Numeral.signed t.sign.negative t.coefficient)) else none := by
  have hdigits : t.whole.all Char.isDigit = true := List.all_eq_true.2 t.digits_whole.isDigit
  have hne : t.whole.isEmpty = false := by simp [t.digits_whole.nonempty]
  have hrest : t.whole ++ t.pointText = t.whole := by simp [pointText, h]
  have hvalue : t.coefficient = Numeral.value t.whole := by simp [coefficient, decimals, h]
  unfold Numeral.readInt64?
  rw [splitSign_number, hrest, hvalue]
  simp only [hdigits, hne]
  cases Numeral.fitsInt64 (Numeral.signed t.sign.negative (Numeral.value t.whole)) <;> rfl

theorem readDecimal?_number (negative : Bool) :
    Numeral.readDecimal? negative (t.whole ++ t.pointText) =
      some (Binary64.ofDecimal negative t.coefficient (0 - t.places)) := by
  have hne : t.whole.isEmpty = false := by simp [t.digits_whole.nonempty]
  unfold Numeral.readDecimal?
  rw [Numeral.splitDigits_digits_append t.digits_whole.isDigit t.noDigit_pointText]
  cases hfraction : t.fraction with
  | none => simp [pointText, coefficient, decimals, places, hfraction, hne, Numeral.readExponent?]
  | some ds =>
    have hsplit : Numeral.splitDigits (ds ++ []) = (ds, []) :=
      Numeral.splitDigits_digits_append (t.digits_fraction ds hfraction).isDigit (by simp [NoDigit])
    rw [List.append_nil] at hsplit
    simp [pointText, coefficient, decimals, places, hfraction, hne, hsplit, Numeral.readExponent?]

theorem readBinary64?_number : Numeral.readBinary64? t.number =
    some (Binary64.ofDecimal t.sign.negative t.coefficient (0 - t.places)) := by
  unfold Numeral.readBinary64?
  rw [splitSign_number]
  simp only [readDecimal?_number, Option.some_or]

/-! ## Counting -/

/-- With a fraction it is the nearest floating point number that counts. -/
theorem countOfText_of_fraction {ds : List Char} (h : t.fraction = some ds) :
    countOfText t.text = t.roundedTruncated := by
  unfold countOfText
  simp only [trim_text, t.readInt64?_number_of_fraction h, readBinary64?_number, Option.map_some,
    Option.getD_some]
  exact Binary64.toInt64_ofDecimal ..

/-- Without a fraction the integer counts, also where it does not fit. -/
theorem countOfText_of_integer (h : t.fraction = none) : countOfText t.text = t.truncated := by
  have hplaces : t.places = 0 := by simp [places, decimals, h]
  unfold countOfText truncated
  simp only [trim_text, t.readInt64?_number h, readBinary64?_number, hplaces, Nat.pow_zero,
    Nat.div_one]
  cases hfits : Numeral.fitsInt64 (Numeral.signed t.sign.negative t.coefficient) with
  | true => simp only [if_true, Binary64.clampInt64_of_fitsInt64 hfits]
  | false =>
    have hlarge := Binary64.le_of_not_fitsInt64 t.sign.negative hfits
    have hrounded : 2 ^ 63 ≤ Binary64.roundedWhole t.coefficient (10 ^ 0) :=
      Binary64.le_roundedWhole (by simpa using hlarge)
    simp only [Bool.false_eq_true, if_false, Option.map_some, Option.getD_some]
    exact (Binary64.toInt64_ofDecimal t.sign.negative t.coefficient 0).trans
      (Binary64.clampInt64_signed_of_le t.sign.negative hrounded hlarge)

end NumericText

namespace Query

theorem run_count {σ : Type} {conn : Connection σ} {q : Query} {column : String}
    {s s' : Session σ} {v : Option Value}
    (h : s.run (q.aggregate? .count column conn) = (.ok v, s')) :
    s.run (q.count column conn) = (.ok ((v.map Value.toCount).getD 0), s') := by
  rw [count, Session.run_bind, h]
  rfl

/-- A count that comes back as numeric text is that number without its
    fraction, moved to 64 bits, if it is written without one, or if it is less
    than `2 ^ 52` and not within half a last place of the next integer; in
    every other case it is the nearest floating point number without its
    fraction. -/
theorem count_numericText {σ : Type} (conn : Connection σ) (q : Query) (column : String)
    {s s' : Session σ} {t : NumericText}
    (h : s.run (q.aggregate? .count column conn) = (.ok (some (.text t.text)), s')) :
    ∃ n, s.run (q.count column conn) = (.ok n, s') ∧
      (t.fraction = none → n = t.truncated) ∧
      (t.fraction ≠ none → n = t.roundedTruncated) ∧
      (t.Apart → n = t.truncated) := by
  refine ⟨countOfText t.text, run_count h, t.countOfText_of_integer, fun hne => ?_,
    fun hapart => ?_⟩
  · obtain ⟨ds, hds⟩ := Option.ne_none_iff_exists'.1 hne
    exact t.countOfText_of_fraction hds
  · cases hfraction : t.fraction with
    | none => exact t.countOfText_of_integer hfraction
    | some ds => rw [t.countOfText_of_fraction hfraction, NumericText.truncated_of_apart hapart]

/-- A negative number with a fraction and a blank in front. -/
theorem count_numericText_negative :
    let q := Query.fresh.modify fun c => { c with table := "users" }
    let s : Session Scripted :=
      { state := { script := { rows := [⟨[("aggregate", .text " -3.9")]⟩] } } }
    ∃ (t : NumericText) (s' : Session Scripted), t.text = " -3.9" ∧ t.Apart ∧
      s.run (q.aggregate? .count "*" scripted) = (.ok (some (.text t.text)), s') ∧
      s.run (q.count "*" scripted) = (.ok (-3), s') := by
  intro q s
  let t : NumericText := ⟨[' '], .minus, ['3'], some ['9'], [], by simp [Text.isBlank],
    ⟨by simp, by simp⟩, by simpa using ⟨by simp, by simp⟩, by simp⟩
  have htext : t.text = " -3.9" := by decide +kernel
  have haggregate : s.run (q.aggregate? .count "*" scripted) =
      (.ok (some (.text t.text)), (s.run (q.aggregate? .count "*" scripted)).2) := by
    rw [htext]
    rfl
  have hapart : t.Apart := ⟨by decide +kernel, by decide +kernel⟩
  obtain ⟨n, hrun, -, -, hn⟩ := count_numericText scripted q "*" haggregate
  have hthree : t.truncated = -3 := by decide +kernel
  rw [hn hapart, hthree] at hrun
  exact ⟨t, _, htext, hapart, haggregate, hrun⟩

/-- Less than one by `10 ^ (-20)` is counted as one. -/
theorem count_rounds_up :
    let q := Query.fresh.modify fun c => { c with table := "users" }
    let s : Session Scripted :=
      { state := { script := { rows := [⟨[("aggregate", .text "0.99999999999999999999")]⟩] } } }
    ∃ (t : NumericText) (s' : Session Scripted), t.text = "0.99999999999999999999" ∧
      t.truncated = 0 ∧
      s.run (q.aggregate? .count "*" scripted) = (.ok (some (.text t.text)), s') ∧
      s.run (q.count "*" scripted) = (.ok 1, s') := by
  intro q s
  let t : NumericText := ⟨[], .none, ['0'], some (List.replicate 20 '9'), [], by simp,
    ⟨by simp, by simp⟩, by simpa using ⟨by simp, by simp⟩, by simp⟩
  have htext : t.text = "0.99999999999999999999" := by decide +kernel
  have haggregate : s.run (q.aggregate? .count "*" scripted) =
      (.ok (some (.text t.text)), (s.run (q.aggregate? .count "*" scripted)).2) := by
    rw [htext]
    rfl
  have hone : ((some (Value.text t.text)).map Value.toCount).getD 0 = 1 := by decide +kernel
  have hcount := run_count haggregate
  rw [hone] at hcount
  exact ⟨t, _, htext, by decide +kernel, haggregate, hcount⟩

end Query

end BoundSql
