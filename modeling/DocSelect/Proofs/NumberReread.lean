import DocSelect.Proofs.Nearest
import DocSelect.Proofs.ScalarText
/-!
# Binary numbers that are read back

The reader rounds a binary number twice: the digits to a significand, and the product with a power
of ten, or the quotient. If the digits fit a significand and the power of ten is a binary number,
only the second step rounds, and it finds the number that was written.

* `Binary64.exists_ofNat?_eq` : whole numbers with few bits, up to zeros at the end, are binary
  numbers;
* `Json.Read.floatOfParts?_eq` : **with one rounding, each decimal in the interval of a number is
  read as the number**;
* `Json.Read.reread_float` : **a binary number whose text has few digits is read back**.
-/

namespace DocSelect

namespace Binary64

/-- A whole number whose bits fit a significand, up to zeros at the end, is a binary number. -/
theorem exists_ofNat?_eq {c j : ℕ} (hc : c < 2 ^ 53) (hj : j ≤ 900) :
    ∃ y, ofNat? (c * 2 ^ j) = some y ∧ y.negative = false ∧ y.magnitude = c * 2 ^ j := by
  rcases Nat.eq_zero_or_pos c with rfl | hpos
  · refine ⟨zero false, ?_, rfl, ?_⟩
    · rw [Nat.zero_mul]
      rfl
    · simp [magnitude, zero]
  · -- the significand has all bits of the precision
    have hlow := Nat.log2_self_le (Nat.pos_iff_ne_zero.1 hpos)
    have hhigh := Nat.lt_log2_self (n := c)
    have hlog : c.log2 ≤ 52 := by
      by_contra hlt
      have hpow : 2 ^ 53 ≤ 2 ^ c.log2 := Nat.pow_le_pow_right (by decide) (by omega)
      omega
    obtain ⟨k, hk⟩ : ∃ k, k + c.log2 = 52 := ⟨52 - c.log2, by omega⟩
    have hsplit : (2 : ℕ) ^ 52 = 2 ^ k * 2 ^ c.log2 := by rw [← pow_add, hk]
    have hfull : 2 ^ 52 ≤ c * 2 ^ k := by
      rw [hsplit, mul_comm c]
      exact Nat.mul_le_mul_left _ hlow
    have hfit : c * 2 ^ k < 2 ^ 53 := by
      have hdouble : (2 : ℕ) ^ 53 = 2 ^ k * 2 ^ (c.log2 + 1) := by
        rw [← pow_add, ← add_assoc, hk]
      rw [hdouble, mul_comm c]
      exact Nat.mul_lt_mul_of_pos_left hhigh (by positivity)
    have hcanonical : Canonical (c * 2 ^ k) (j - k) := by
      refine ⟨hfit, by omega, by omega, .inl hfull⟩
    let y : Binary64 := ⟨false, c * 2 ^ k, j - k, hcanonical⟩
    have hvalue : y.magnitude = c * 2 ^ j := by
      show (((c * 2 ^ k : ℕ) : ℚ)) * 2 ^ ((j : ℤ) - k) = _
      rw [zpow_sub₀ two_ne_zero, zpow_natCast, zpow_natCast]
      push_cast
      field_simp
    have hne : y.significand ≠ 0 := by
      show c * 2 ^ k ≠ 0
      positivity
    refine ⟨y, ?_, rfl, hvalue⟩
    have hcovers := covers_magnitude hne
    rw [hvalue] at hcovers
    refine ofRatio?_of_covers (x := y) hne Nat.one_pos ?_
    push_cast
    rwa [div_one]

/-- The powers of ten up to the twenty-second are binary numbers. -/
theorem exists_powerOfTen?_eq {k : ℕ} (hk : k ≤ 22) :
    ∃ y, powerOfTen? k = some y ∧ y.negative = false ∧ y.magnitude = 10 ^ k := by
  have hfive : 5 ^ k < 2 ^ 53 := by
    calc 5 ^ k ≤ 5 ^ 22 := Nat.pow_le_pow_right (by decide) hk
      _ < 2 ^ 53 := by decide
  obtain ⟨y, hy, hsign, hvalue⟩ := exists_ofNat?_eq hfive (show k ≤ 900 by omega)
  have hten : (5 : ℕ) ^ k * 2 ^ k = 10 ^ k := (mul_pow 5 2 k).symm
  refine ⟨y, ?_, hsign, ?_⟩
  · rw [hten] at hy
    exact hy
  · rw [hvalue]
    exact_mod_cast hten

/-- The sign does not matter for the interval. -/
theorem covers_abs_iff {x : Binary64} {q : ℚ} : x.abs.Covers q ↔ x.Covers q := Iff.rfl

/-- A product in the interval of a number is rounded to it. -/
theorem times?_of_covers {x a b : Binary64} (hx : x.significand ≠ 0) (ha : a.negative = false)
    (hb : b.negative = false) (h : x.Covers (a.magnitude * b.magnitude)) :
    a.times? b = some x.abs := by
  have hpos : 0 < a.ratio.2 * b.ratio.2 := Nat.mul_pos a.ratio_snd_pos b.ratio_snd_pos
  have hvalue : ((a.ratio.1 * b.ratio.1 : ℕ) : ℚ) / (a.ratio.2 * b.ratio.2 : ℕ) =
      a.magnitude * b.magnitude := by
    rw [← a.ratio_value, ← b.ratio_value, div_mul_div_comm]
    push_cast
    rfl
  rw [times?, ha, hb]
  refine ofRatio?_of_covers (x := x.abs) hx hpos (covers_abs_iff.2 ?_)
  rw [hvalue]
  exact h

/-- A quotient in the interval of a number is rounded to it. -/
theorem over?_of_covers {x a b : Binary64} (hx : x.significand ≠ 0) (ha : a.negative = false)
    (hb : b.negative = false) (hne : b.significand ≠ 0) (h : x.Covers (a.magnitude / b.magnitude)) :
    a.over? b = some x.abs := by
  have hpos : 0 < a.ratio.2 * b.ratio.1 := Nat.mul_pos a.ratio_snd_pos (ratio_fst_pos hne)
  have hvalue : ((a.ratio.1 * b.ratio.2 : ℕ) : ℚ) / (a.ratio.2 * b.ratio.1 : ℕ) =
      a.magnitude / b.magnitude := by
    rw [← a.ratio_value, ← b.ratio_value, div_div_div_eq]
    push_cast
    rfl
  rw [over?, ha, hb]
  refine ofRatio?_of_covers (x := x.abs) hx hpos (covers_abs_iff.2 ?_)
  rw [hvalue]
  exact h

end Binary64

namespace Json.Read

/-- **With one rounding, each decimal in the interval of a number is read as the number.** -/
theorem floatOfParts?_eq {x : Binary64} (hx : x.significand ≠ 0) {s : ℕ} {e : ℤ}
    (hs : s < 2 ^ 53) (he : |e| ≤ 22) (h : x.Covers (s * 10 ^ e)) :
    floatOfParts? x.negative s e = some x := by
  obtain ⟨a, ha, hasign, havalue⟩ := Binary64.exists_ofNat?_eq (j := 0) hs (by decide)
  rw [pow_zero, Nat.mul_one] at ha
  rw [pow_zero, mul_one] at havalue
  have habs := abs_le.1 he
  have hscaled : scaleByTen? (e.natAbs / 308 + 1) a e = some x.abs := by
    rw [scaleByTen?.eq_def]
    simp only [if_pos (show e.natAbs ≤ 308 by omega)]
    split
    · next hnonneg =>
      obtain ⟨b, hb, hbsign, hbvalue⟩ := Binary64.exists_powerOfTen?_eq (k := e.toNat) (by omega)
      obtain ⟨k, rfl⟩ := Int.eq_ofNat_of_zero_le hnonneg
      rw [hb]
      refine Binary64.times?_of_covers hx hasign hbsign ?_
      rw [havalue, hbvalue, Int.toNat_natCast, ← zpow_natCast]
      exact h
    · next hneg =>
      obtain ⟨b, hb, hbsign, hbvalue⟩ := Binary64.exists_powerOfTen?_eq (k := (-e).toNat) (by omega)
      obtain ⟨k, hk⟩ := Int.eq_ofNat_of_zero_le (show 0 ≤ -e by omega)
      obtain rfl : e = -(k : ℤ) := by omega
      rw [neg_neg, Int.toNat_natCast] at hb hbvalue ⊢
      have hne : b.significand ≠ 0 := by
        intro hzero
        rw [Binary64.magnitude, hzero] at hbvalue
        have hpos : (0 : ℚ) < 10 ^ k := by positivity
        rw [← hbvalue] at hpos
        simp at hpos
      rw [hb]
      refine Binary64.over?_of_covers hx hasign hbsign hne ?_
      rw [havalue, hbvalue, div_eq_mul_inv, ← zpow_natCast, ← zpow_neg]
      exact h
  rw [floatOfParts?, ha]
  show (scaleByTen? _ a e).bind _ = _
  rw [hscaled]
  obtain ⟨negative, m, exponent, hcanonical⟩ := x
  cases negative <;> rfl

theorem floatOfParts?_zero (negative : Bool) :
    floatOfParts? negative 0 (-1) = some (.zero negative) := by
  cases negative <;> decide +kernel

/-! ## Digits around a point -/

theorem foldl_pushFraction {ds : List Char} {n : ℕ}
    (hmax : Nat.ofDigitChars 10 ds n ≤ maxSignificand) (e : ℤ) :
    ds.foldl Digits.pushFraction ⟨n, e, false⟩ =
      ⟨Nat.ofDigitChars 10 ds n, e - ds.length, false⟩ := by
  induction ds generalizing n e with
  | nil => simp
  | cons c ds ih =>
    rw [ofDigitChars_push] at hmax ⊢
    have hle := (le_ofDigitChars ds (n * 10 + digitValue c)).trans hmax
    rw [List.foldl_cons, Digits.pushFraction, if_neg (by simpa using hle), ih hmax]
    rw [List.length_cons]
    congr 1
    push_cast
    ring

/-- Digits that fit are taken up exactly, on both sides of the point. -/
theorem pointedDigits_eq {whole fraction : List Char}
    (hmax : digitsValue (whole ++ fraction) ≤ maxSignificand) :
    pointedDigits whole fraction =
      ⟨digitsValue (whole ++ fraction), -(fraction.length : ℤ), false⟩ := by
  rw [digitsValue_eq_ofDigitChars, Nat.ofDigitChars_append] at hmax ⊢
  have hwhole := (le_ofDigitChars fraction _).trans hmax
  rw [pointedDigits, foldl_push hwhole, foldl_pushFraction hmax, Int.zero_sub]

/-- The decimal that the text of a number spells rounds to the number. -/
theorem covers_textDecimal {x : Binary64} (hx : x.significand ≠ 0) :
    x.Covers x.textDecimal.toRat := by
  have hcovers := Decimal.covers_shortest .toEven hx
  have hz : ¬ x.isZero = true := by simpa [Binary64.isZero] using hx
  rw [Binary64.textDecimal, if_neg hz]
  split
  · next hwhole => rwa [Decimal.toRat_zeros hwhole.1]
  · exact hcovers

/-- **A binary number whose text has few digits is read back**: its digits without the point fit a
significand, and the power of ten is small. -/
theorem reread_float {x : Binary64} (hdigits : x.textDecimal.coefficient < 2 ^ 53)
    (hscale : |x.textDecimal.scale| ≤ 22) : (Number.float x).reread = some (.float x) := by
  obtain ⟨whole, fraction, shift, hspelling⟩ := exists_floatSpelling x
  have hparts :
      floatOfParts? x.negative x.textDecimal.coefficient x.textDecimal.scale = some x := by
    by_cases hx : x.significand = 0
    · have hz : x.isZero = true := by simpa [Binary64.isZero] using hx
      have hx' := Binary64.eq_zero_of_significand_eq_zero hx
      rw [Binary64.textDecimal, if_pos hz, floatOfParts?_zero, ← hx']
    · exact floatOfParts?_eq hx hdigits hscale (covers_textDecimal hx)
  rw [← hspelling.decimal] at hparts hdigits
  have hmax : digitsValue (whole ++ fraction) ≤ maxSignificand := by
    unfold maxSignificand
    exact hdigits.le.trans (by decide)
  have hshift : -(fraction.length : ℤ) + shift = shift - fraction.length := by ring
  have hnumber := hspelling.read [] endsNumber_nil
  rw [List.append_nil, pointedDigits_eq hmax, floatNumber, hshift, hparts] at hnumber
  rw [Number.reread, Number.text_float, hnumber]
  rfl

end Json.Read

end DocSelect
