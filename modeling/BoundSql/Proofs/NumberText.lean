/-
  The text of a number, and how it is read inside a JSON document.

  * `NumberText` is the grammar: digits without a leading zero, a fraction, an
    exponent;
  * `Layout.numberText_render`: every finite number is written in it, whatever
    the layout.  The digits have no leading zero since the shortest decimal of
    a number other than zero is not zero (`Binary64.shortest_coefficient_pos`);
  * `Json.readNumber?_numberText`: such a text is read to its end and no
    further, with a result that does not depend on what follows (`Json.Ends`);
  * `Json.readNumber?_toString`: the text of an integer is read as that integer.
-/
import BoundSql.Json.Reader

namespace BoundSql

/-! ## Digits -/

/-- One digit or more, and nothing else. -/
structure Digits (ds : List Char) : Prop where
  nonempty : ds ≠ []
  isDigit : ∀ c ∈ ds, c.isDigit = true

/-- The text does not begin with a digit. -/
def NoDigit (cs : List Char) : Prop := ∀ c ∈ cs.head?, c.isDigit = false

theorem Digits.toDigits (n : Nat) : Digits (Nat.toDigits 10 n) :=
  ⟨Nat.toDigits_ne_nil, fun _ hc => Nat.isDigit_of_mem_toDigits (by decide) (by decide) hc⟩

theorem Decimal.digits_digits (d : Decimal) : Digits d.digits := Digits.toDigits d.coefficient

theorem Digits.zero : Digits ['0'] := Digits.toDigits 0

theorem isDigit_of_mem_zeros {n : Nat} {c : Char} (h : c ∈ List.replicate n '0') :
    c.isDigit = true := by
  rw [List.eq_of_mem_replicate h]; decide

theorem Digits.append_zeros {ds : List Char} (h : Digits ds) (n : Nat) :
    Digits (ds ++ List.replicate n '0') :=
  ⟨by simp [h.nonempty], fun c hc => (List.mem_append.1 hc).elim (h.isDigit c) isDigit_of_mem_zeros⟩

theorem Digits.zeros_append {ds : List Char} (h : Digits ds) (n : Nat) :
    Digits (List.replicate n '0' ++ ds) :=
  ⟨by simp [h.nonempty], fun c hc => (List.mem_append.1 hc).elim isDigit_of_mem_zeros (h.isDigit c)⟩

theorem Digits.take {ds : List Char} (h : Digits ds) {n : Nat} (hn : n ≠ 0) : Digits (ds.take n) :=
  ⟨by simp [List.take_eq_nil_iff, hn, h.nonempty],
    fun c hc => h.isDigit c (List.mem_of_mem_take hc)⟩

theorem Digits.drop {ds : List Char} (h : Digits ds) {n : Nat} (hn : n < ds.length) :
    Digits (ds.drop n) :=
  ⟨by simpa [List.drop_eq_nil_iff] using hn,
    fun c hc => h.isDigit c (List.mem_of_mem_drop hc)⟩

/-- The value of the digits of a natural is that natural. -/
theorem Numeral.value_toDigits (n : Nat) : Numeral.value (Nat.toDigits 10 n) = n :=
  Nat.ofDigitChars_ten_toDigits

theorem Numeral.splitDigits_digits_append {ds cs : List Char} (hds : ∀ c ∈ ds, c.isDigit = true)
    (hcs : NoDigit cs) : Numeral.splitDigits (ds ++ cs) = (ds, cs) := by
  have htake : cs.takeWhile Char.isDigit = [] := by
    cases cs with
    | nil => rfl
    | cons c cs => simp [hcs c rfl]
  have hdrop : cs.dropWhile Char.isDigit = cs := by
    cases cs with
    | nil => rfl
    | cons c cs => simp [hcs c rfl]
  rw [splitDigits, List.takeWhile_append_of_pos hds, List.dropWhile_append_of_pos hds, htake,
    hdrop, List.append_nil]

theorem Numeral.splitSign_digits_append {ds : List Char} (hds : Digits ds) (cs : List Char) :
    Numeral.splitSign (ds ++ cs) = (false, ds ++ cs) := by
  obtain ⟨d, ds, rfl⟩ := List.exists_cons_of_ne_nil hds.nonempty
  have hd := hds.isDigit d List.mem_cons_self
  unfold splitSign
  split
  · next heq => cases heq; exact absurd hd (by decide)
  · next heq => cases heq; exact absurd hd (by decide)
  · rfl

theorem head?_append_of_ne_nil {cs : List Char} (h : cs ≠ []) (es : List Char) :
    (cs ++ es).head? = cs.head? := by
  obtain ⟨c, cs, rfl⟩ := List.exists_cons_of_ne_nil h
  rfl

/-- The digits of a natural other than zero begin with another digit than zero. -/
theorem head?_toDigits_ne_zero {n : Nat} (h : 0 < n) :
    (Nat.toDigits 10 n).head? ≠ some '0' := by
  induction n using Nat.strongRecOn with
  | ind n ih =>
    rw [Nat.toDigits_eq_if (by decide)]
    split
    · next hn =>
      have : ∀ k < 10, 0 < k → Nat.digitChar k ≠ '0' := by decide
      simpa using this n hn h
    · next hn =>
      have hrest := ih (n / 10) (by omega) (by omega)
      rwa [head?_append_of_ne_nil Nat.toDigits_ne_nil]

/-! ## The grammar -/

/-- Nothing, or a point and digits; and the digits. -/
inductive FractionText : List Char → List Char → Prop where
  | none : FractionText [] []
  | point {ds : List Char} (h : Digits ds) : FractionText ('.' :: ds) ds

/-- Nothing, or the mark of an exponent, a sign if there is one, and digits; and
    the exponent. -/
inductive ExponentText : List Char → Option Int → Prop where
  | none : ExponentText [] none
  | unsigned {ds : List Char} (h : Digits ds) :
      ExponentText ('e' :: ds) (some (Numeral.signed false (Numeral.value ds)))
  | plus {ds : List Char} (h : Digits ds) :
      ExponentText ('e' :: '+' :: ds) (some (Numeral.signed false (Numeral.value ds)))
  | minus {ds : List Char} (h : Digits ds) :
      ExponentText ('e' :: '-' :: ds) (some (Numeral.signed true (Numeral.value ds)))

/-- The sign of a number as it is written. -/
def signText (negative : Bool) : List Char := if negative then ['-'] else []

/-- A number without its sign. -/
inductive NumberText : List Char → Prop where
  | parts {whole fraction exponent ds : List Char} {e : Option Int} (hwhole : Digits whole)
      (hzero : whole.head? = some '0' → whole = ['0']) (hfraction : FractionText fraction ds)
      (hexponent : ExponentText exponent e) : NumberText (whole ++ (fraction ++ exponent))

theorem NumberText.of_head?_ne {whole fraction exponent ds : List Char} {e : Option Int}
    (hwhole : Digits whole) (hhead : whole.head? ≠ some '0') (hfraction : FractionText fraction ds)
    (hexponent : ExponentText exponent e) : NumberText (whole ++ (fraction ++ exponent)) :=
  .parts hwhole (fun hzero => absurd hzero hhead) hfraction hexponent

theorem numberText_zero (pointZero : Bool) :
    NumberText ('0' :: (if pointZero then ['.', '0'] else [])) := by
  cases pointZero with
  | false => exact .parts Digits.zero (fun _ => rfl) .none .none
  | true => exact .parts Digits.zero (fun _ => rfl) (.point Digits.zero) .none

/-! ## The digits that are chosen -/

namespace Span

/-- An interval above zero does not contain it. -/
theorem pos_of_contains {s : Span} {n : Nat} (hlow : 0 < s.low) (h : s.contains n = true) :
    0 < n := by
  refine Nat.pos_of_ne_zero fun hzero => ?_
  rw [contains, hzero, Nat.zero_mul] at h
  split at h
  · have hle := of_decide_eq_true (Bool.and_eq_true_iff.1 h).1
    omega
  · have hlt := of_decide_eq_true (Bool.and_eq_true_iff.1 h).1
    omega

theorem low_inUnits_pos {s : Span} (e : Int) (h : 0 < s.low) : 0 < (s.inUnits e).low := by
  unfold inUnits
  split
  · exact h
  · exact Nat.mul_pos h (Nat.pow_pos (by decide))

theorem low_ofBinary64_pos {x : Binary64} (h : 0 < x.significand) :
    0 < (Span.ofBinary64 x).low := by
  unfold ofBinary64
  refine Nat.mul_pos ?_ (Nat.pow_pos (by decide))
  split <;> omega

end Span

namespace Decimal

theorem strip_coefficient_pos {n : Nat} {d : Decimal} (h : 0 < d.coefficient) :
    0 < (d.strip n).coefficient := by
  induction n generalizing d with
  | zero => exact h
  | succ n ih =>
    unfold strip
    split
    · next hd => exact ih (by dsimp only; omega)
    · exact h

theorem coefficient_getD_pos {found : Option Decimal} {other : Decimal}
    (hfound : ∀ d, found = some d → 0 < d.coefficient) (hother : 0 < other.coefficient) :
    0 < (found.getD other).coefficient := by
  cases found with
  | none => exact hother
  | some d => exact hfound d rfl

end Decimal

namespace Binary64

theorem significand_pos {x : Binary64} (h : x.isZero = false) : 0 < x.significand := by
  simp only [isZero, Bool.and_eq_false_iff, beq_eq_false_iff_ne] at h
  unfold significand
  split
  · next he => exact Nat.pos_of_ne_zero (h.resolve_left (not_not_intro he))
  · exact Nat.add_pos_left (Nat.pow_pos (by decide)) _

/-- The shortest decimal of a number other than zero is not zero: zero lies
    outside the interval around the number. -/
theorem shortest_coefficient_pos (tie : Tie) {x : Binary64} (h : x.isZero = false) :
    0 < (x.shortest tie).coefficient := by
  have hm := significand_pos h
  refine Decimal.coefficient_getD_pos (fun d hd => ?_) (Nat.mul_pos hm (Nat.pow_pos (by decide)))
  obtain ⟨n, -, hn⟩ := List.exists_of_findSome?_eq_some hd
  obtain ⟨c, hc, rfl⟩ := Option.map_eq_some_iff.1 hn
  have hlow := Span.low_inUnits_pos ((Span.ofBinary64 x).leading - n) (Span.low_ofBinary64_pos hm)
  exact Decimal.strip_coefficient_pos
    (Span.pos_of_contains hlow (Span.contains_of_neighbour? hc))

end Binary64

/-! ## What is written -/

namespace Layout

variable (f : Layout) {d : Decimal}

theorem numberText_positionalText (h : 0 < d.coefficient) : NumberText (f.positionalText d) := by
  have hd := d.digits_digits
  have hhead : d.digits.head? ≠ some '0' := head?_toDigits_ne_zero h
  unfold positionalText
  dsimp only
  split
  · simpa using NumberText.parts Digits.zero (fun _ => rfl) (.point (hd.zeros_append _)) .none
  split
  · have hwhole := hd.append_zeros ((d.leading + 1).toNat - d.digits.length)
    have hfirst : (d.digits ++
        List.replicate ((d.leading + 1).toNat - d.digits.length) '0').head? ≠ some '0' := by
      rwa [head?_append_of_ne_nil hd.nonempty]
    cases f.pointZero with
    | false => simpa using NumberText.of_head?_ne hwhole hfirst .none .none
    | true => simpa using NumberText.of_head?_ne hwhole hfirst (.point Digits.zero) .none
  · next hk hlength =>
    have hpositive : (d.leading + 1).toNat ≠ 0 := by omega
    have hfirst : (d.digits.take (d.leading + 1).toNat).head? ≠ some '0' := by
      rwa [List.head?_take, if_neg hpositive]
    simpa using NumberText.of_head?_ne (hd.take hpositive) hfirst
      (.point (hd.drop (Nat.lt_of_not_le hlength))) .none

theorem numberText_exponentText (h : 0 < d.coefficient) : NumberText (f.exponentText d) := by
  have hd := d.digits_digits
  have hhead : d.digits.head? ≠ some '0' := head?_toDigits_ne_zero h
  have hfirst : (d.digits.take 1).head? ≠ some '0' := by
    rwa [List.head?_take, if_neg (by decide)]
  obtain ⟨ds, hfraction⟩ : ∃ ds, FractionText
      (if d.digits.length ≤ 1 then [] else '.' :: d.digits.drop 1) ds := by
    split
    · exact ⟨_, .none⟩
    · next hlength => exact ⟨_, .point (hd.drop (Nat.lt_of_not_le hlength))⟩
  obtain ⟨e, hexponent⟩ : ∃ e, ExponentText ('e' ::
      ((if d.leading < 0 then ['-'] else if f.exponentPlus then ['+'] else []) ++
        Nat.toDigits 10 d.leading.natAbs)) e := by
    have hk := Digits.toDigits d.leading.natAbs
    split
    · exact ⟨_, .minus hk⟩
    · split
      · exact ⟨_, .plus hk⟩
      · exact ⟨_, .unsigned hk⟩
  rw [exponentText, List.append_assoc]
  exact .of_head?_ne (hd.take (by decide)) hfirst hfraction hexponent

/-- A number that is neither NaN nor infinite is written as a sign, if it has
    one, and a number text. -/
theorem numberText_render {x : Binary64} (hnan : x.isNaN = false) (hinf : x.isInfinite = false) :
    ∃ text, NumberText text ∧ (f.render x).toList = signText x.negative ++ text := by
  have hsize : NumberText (if x.isZero then '0' :: (if f.pointZero then ['.', '0'] else [])
      else if f.positional (x.shortest f.tie).leading then f.positionalText (x.shortest f.tie)
      else f.exponentText (x.shortest f.tie)) := by
    split
    · exact numberText_zero f.pointZero
    · next hz =>
      have hpos := Binary64.shortest_coefficient_pos f.tie (Bool.not_eq_true _ ▸ hz)
      split
      · exact f.numberText_positionalText hpos
      · exact f.numberText_exponentText hpos
  refine ⟨_, hsize, ?_⟩
  cases hneg : x.negative <;> simp [render, hnan, hinf, hneg, signText]

end Layout

/-! ## What is read -/

namespace Json

/-- What may follow a value inside a document: nothing, a comma, or the end of
    an array or object. -/
def Ends (rest : List Char) : Prop := ∀ c ∈ rest.head?, c = ',' ∨ c = ']' ∨ c = '\x7d'

theorem Ends.nil : Ends [] := by simp [Ends]

theorem Ends.comma (cs : List Char) : Ends (',' :: cs) := by simp [Ends]

theorem Ends.bracket (cs : List Char) : Ends (']' :: cs) := by simp [Ends]

theorem Ends.brace (cs : List Char) : Ends ('\x7d' :: cs) := by simp [Ends]

theorem Ends.noDigit {rest : List Char} (h : Ends rest) : NoDigit rest := by
  intro c hc
  rcases h c hc with rfl | rfl | rfl <;> decide

theorem readDigits?_append {ds cs : List Char} (hds : Digits ds) (hcs : NoDigit cs) :
    readDigits? (ds ++ cs) = some (ds, cs) := by
  rw [readDigits?, Numeral.splitDigits_digits_append hds.isDigit hcs]
  simp [hds.nonempty]

theorem readFraction?_append {t ds rest : List Char} (ht : FractionText t ds)
    (hdigit : NoDigit rest) (hpoint : rest.head? ≠ some '.') :
    readFraction? (t ++ rest) = some (ds, rest) := by
  cases ht with
  | none =>
    rw [List.nil_append]
    unfold readFraction?
    split
    · exact absurd rfl hpoint
    · rfl
  | point h => exact readDigits?_append h hdigit

theorem readExponent?_append {t rest : List Char} {e : Option Int} (ht : ExponentText t e)
    (hrest : Ends rest) : readExponent? (t ++ rest) = some (e, rest) := by
  cases ht with
  | none =>
    cases rest with
    | nil => rfl
    | cons c cs => rcases hrest c rfl with rfl | rfl | rfl <;> rfl
  | unsigned h =>
    rw [List.cons_append]
    simp [readExponent?, Numeral.splitSign_digits_append h, readDigits?_append h hrest.noDigit]
  | plus h | minus h =>
    simp [readExponent?, Numeral.splitSign, readDigits?_append h hrest.noDigit]

/-- A number is read piece by piece: digits, a fraction, an exponent. -/
theorem readNumber?_of_pieces {cs whole cs₁ fraction cs₂ cs₃ : List Char} {exponent : Option Int}
    (negative : Bool) (hcs : cs.head? ≠ some '-') (hwhole : readDigits? cs = some (whole, cs₁))
    (hzero : whole.head? = some '0' → whole = ['0'])
    (hfraction : readFraction? cs₁ = some (fraction, cs₂))
    (hexponent : readExponent? cs₂ = some (exponent, cs₃)) :
    readNumber? (signText negative ++ cs) =
      some (if fraction.isEmpty && exponent.isNone then ofInteger negative (Numeral.value whole)
        else .float (Binary64.ofDecimal negative (Numeral.value (whole ++ fraction))
          (exponent.getD 0 - fraction.length)), cs₃) := by
  have hguard : (decide (whole.head? = some '0') && decide (1 < whole.length)) = false := by
    by_cases h0 : whole.head? = some '0'
    · simp [hzero h0]
    · simp [h0]
  cases negative with
  | true =>
    change readNumber? ('-' :: cs) = _
    unfold readNumber?
    simp only [hwhole, hguard, hfraction, hexponent, Option.bind_eq_bind, Option.bind_some,
      Bool.false_eq_true, if_false]
    split <;> rfl
  | false =>
    change readNumber? cs = _
    unfold readNumber?
    split
    next heq =>
      split at heq
      · simp at hcs
      · cases heq
        simp only [hwhole, hguard, hfraction, hexponent, Option.bind_eq_bind, Option.bind_some,
          Bool.false_eq_true, if_false]
        split <;> rfl

theorem head?_ne_of_digits {c : Char} {ds : List Char} (hds : Digits ds) (hc : c.isDigit = false)
    (cs : List Char) : (ds ++ cs).head? ≠ some c := by
  rw [head?_append_of_ne_nil hds.nonempty]
  intro hhead
  have := hds.isDigit c (List.mem_of_mem_head? hhead)
  rw [hc] at this
  cases this

/-- An exponent and what may follow it begin with neither a digit nor a point. -/
theorem noDigit_exponentText_append {t rest : List Char} {e : Option Int} (ht : ExponentText t e)
    (hrest : Ends rest) : NoDigit (t ++ rest) ∧ (t ++ rest).head? ≠ some '.' := by
  cases ht with
  | none =>
    refine ⟨hrest.noDigit, fun h => ?_⟩
    rcases hrest _ h with h | h | h <;> cases h
  | unsigned | plus | minus => exact ⟨by rintro c ⟨⟩; decide, by simp⟩

/-- A number text is read to its end, whatever follows it. -/
theorem readNumber?_numberText (negative : Bool) {t : List Char} (ht : NumberText t) :
    ∃ v, ∀ rest, Ends rest → readNumber? (signText negative ++ (t ++ rest)) = some (v, rest) := by
  obtain @⟨whole, fraction, exponent, ds, e, hwhole, hzero, hfraction, hexponent⟩ := ht
  refine ⟨if ds.isEmpty && e.isNone then ofInteger negative (Numeral.value whole)
    else .float (Binary64.ofDecimal negative (Numeral.value (whole ++ ds))
      (e.getD 0 - ds.length)), fun rest hrest => ?_⟩
  obtain ⟨hdigit, hpoint⟩ := noDigit_exponentText_append hexponent hrest
  have hafter : NoDigit (fraction ++ (exponent ++ rest)) := by
    cases hfraction with
    | none => exact hdigit
    | point => rintro c ⟨⟩; decide
  rw [List.append_assoc, List.append_assoc]
  exact readNumber?_of_pieces negative (head?_ne_of_digits hwhole (by decide) _)
    (readDigits?_append hwhole hafter) hzero (readFraction?_append hfraction hdigit hpoint)
    (readExponent?_append hexponent hrest)

theorem toList_toString_int (i : Int) :
    (toString i).toList = signText (decide (i < 0)) ++ Nat.toDigits 10 i.natAbs := by
  rw [Int.toString_eq_repr]
  cases i with
  | ofNat n => simp [Int.repr, Nat.repr, signText]
  | negSucc n => simp [Int.repr, Nat.repr, signText, Int.negSucc_lt_zero]

/-- The text of an integer is read as that integer, whatever follows it. -/
theorem readNumber?_toString (i : Int) {rest : List Char} (hrest : Ends rest) :
    readNumber? ((toString i).toList ++ rest) =
      some (ofInteger (decide (i < 0)) i.natAbs, rest) := by
  have hdigits := Digits.toDigits i.natAbs
  have hzero : (Nat.toDigits 10 i.natAbs).head? = some '0' → Nat.toDigits 10 i.natAbs = ['0'] := by
    intro h
    rcases Nat.eq_zero_or_pos i.natAbs with h0 | h0
    · rw [h0]; rfl
    · exact absurd h (head?_toDigits_ne_zero h0)
  obtain ⟨hdigit, hpoint⟩ := noDigit_exponentText_append .none hrest
  rw [List.nil_append] at hdigit hpoint
  have hfraction : readFraction? rest = some ([], rest) := readFraction?_append .none hdigit hpoint
  have hexponent : readExponent? rest = some (none, rest) := readExponent?_append .none hrest
  rw [toList_toString_int, List.append_assoc,
    readNumber?_of_pieces _ (head?_ne_of_digits hdigits (by decide) _)
      (readDigits?_append hdigits hdigit) hzero hfraction hexponent, Numeral.value_toDigits]
  rfl

end Json

end BoundSql
