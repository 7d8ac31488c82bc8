import DocSelect.Numeric.Decimal
import Mathlib.Algebra.Order.Field.Power
import Mathlib.Tactic.FieldSimp
import Mathlib.Tactic.Linarith
import Mathlib.Tactic.NormNum
import Mathlib.Tactic.Positivity
import Mathlib.Tactic.Ring
/-!
# Rounding as a statement on rational numbers

The rounding of a ratio to a binary format, read off the exact value of the ratio.

* `BinaryFormat.exponentFor_eq` : the exponent is the only one at which the value fits the precision
  and fills it, or the smallest one;
* `divHalfEven_eq` : the quotient is the whole number half a unit away at most, the even one
  halfway;
* `Binary64.Covers` : the values that round to a number, as an interval of rationals;
* `Binary64.ofRatio?_of_covers` : each ratio in the interval of a number rounds to it.
-/

namespace DocSelect

/-! ## Ratios of powers -/

/-- A multiple of a power, as the ratio that keeps both parts whole. -/
theorem ratio_mul_zpow (b c : ℕ) (hb : 0 < b) (e : ℤ) :
    let r := if 0 ≤ e then (c * Nat.pow b e.toNat, 1) else (c, Nat.pow b (-e).toNat)
    0 < r.2 ∧ (r.1 : ℚ) / r.2 = c * b ^ e := by
  split
  · next h =>
    obtain ⟨k, rfl⟩ := Int.eq_ofNat_of_zero_le h
    simp
  · next h =>
    obtain ⟨k, hk⟩ := Int.eq_ofNat_of_zero_le (show 0 ≤ -e by omega)
    obtain rfl : e = -(k : ℤ) := by omega
    simp [div_eq_mul_inv, Nat.pow_pos hb]

/-- A ratio divided by a power, as the ratio that keeps both parts whole. -/
theorem ratio_div_zpow (b num den : ℕ) (hb : 0 < b) (e : ℤ) :
    let r := if 0 ≤ e then (num, den * Nat.pow b e.toNat) else (num * Nat.pow b (-e).toNat, den)
    (0 < den → 0 < r.2) ∧ (r.1 : ℚ) / r.2 = num / den / b ^ e := by
  split
  · next h =>
    obtain ⟨k, rfl⟩ := Int.eq_ofNat_of_zero_le h
    simp [div_div, Nat.pow_pos hb]
  · next h =>
    obtain ⟨k, hk⟩ := Int.eq_ofNat_of_zero_le (show 0 ≤ -e by omega)
    obtain rfl : e = -(k : ℤ) := by omega
    simp [mul_div_right_comm]

theorem scaleRatio_snd_pos {num den : ℕ} (hd : 0 < den) (e : ℤ) :
    0 < (scaleRatio num den e).2 :=
  (ratio_div_zpow 2 num den (by decide) e).1 hd

/-- Scaling divides the value of the ratio by the power of two. -/
theorem scaleRatio_value (num den : ℕ) (e : ℤ) :
    ((scaleRatio num den e).1 : ℚ) / (scaleRatio num den e).2 = num / den / 2 ^ e := by
  exact_mod_cast (ratio_div_zpow 2 num den (by decide) e).2

/-! ## The nearest whole number -/

/-- The quotient is the whole number at most half a unit away; at half a unit it must be even. -/
theorem divHalfEven_eq {a b r : ℕ} (hb : 0 < b)
    (lo : (r : ℚ) - 1 / 2 ≤ a / b) (hi : (a : ℚ) / b ≤ r + 1 / 2)
    (tie : r % 2 = 0 ∨ ((r : ℚ) - 1 / 2 < a / b ∧ (a : ℚ) / b < r + 1 / 2)) :
    divHalfEven a b = r := by
  have hb' : (0 : ℚ) < b := by exact_mod_cast hb
  rw [le_div_iff₀ hb'] at lo
  rw [div_le_iff₀ hb'] at hi
  rw [lt_div_iff₀ hb', div_lt_iff₀ hb'] at tie
  -- the bounds again, without fractions
  have lo' : 2 * r * b ≤ 2 * a + b := by
    have : (2 * r * b : ℚ) ≤ 2 * a + b := by linarith
    exact_mod_cast this
  have hi' : 2 * a ≤ 2 * r * b + b := by
    have : (2 * a : ℚ) ≤ 2 * r * b + b := by linarith
    exact_mod_cast this
  have tie' : r % 2 = 0 ∨ (2 * r * b < 2 * a + b ∧ 2 * a < 2 * r * b + b) := by
    refine tie.imp_right fun h => ⟨?_, ?_⟩
    · have : (2 * r * b : ℚ) < 2 * a + b := by linarith [h.1]
      exact_mod_cast this
    · have : (2 * a : ℚ) < 2 * r * b + b := by linarith [h.2]
      exact_mod_cast this
  have hdiv := Nat.div_add_mod a b
  have hmod := Nat.mod_lt a hb
  generalize hq : a / b = q at *
  generalize hm : a % b = m at *
  -- the whole part of the quotient is `r` or the number below
  have hcases : q = r ∨ q + 1 = r := by
    have h1 : q ≤ r := by
      by_contra hlt
      have : b * (r + 1) ≤ b * q := Nat.mul_le_mul_left b (by omega)
      nlinarith
    have h2 : r ≤ q + 1 := by
      by_contra hlt
      have : b * (q + 2) ≤ b * r := Nat.mul_le_mul_left b (by omega)
      nlinarith
    omega
  unfold divHalfEven
  simp only [hq, hm]
  rcases hcases with rfl | rfl
  · have h1 : 2 * m ≤ b := by nlinarith
    rcases tie' with heven | ⟨-, h2⟩
    · split_ifs <;> first | rfl | omega
    · have h3 : 2 * m < b := by nlinarith
      rw [if_pos h3]
  · have h1 : b ≤ 2 * m := by nlinarith
    rcases tie' with heven | ⟨h2, -⟩
    · split_ifs <;> first | rfl | omega
    · have h3 : b < 2 * m := by nlinarith
      rw [if_neg (by omega), if_pos h3]

/-! ## The exponent -/

theorem two_zpow_log2_le {n : ℕ} (hn : 0 < n) : (2 : ℚ) ^ (Nat.log2 n : ℤ) ≤ n := by
  rw [zpow_natCast]
  exact_mod_cast Nat.log2_self_le (by omega)

theorem lt_two_zpow_log2_succ (n : ℕ) : (n : ℚ) < 2 ^ ((Nat.log2 n : ℤ) + 1) := by
  have h : n < 2 ^ (n.log2 + 1) := Nat.lt_log2_self
  exact_mod_cast h

namespace BinaryFormat

/-- The exponent is the only one in range at which the value is below the precision and, unless
it is the smallest exponent, has all its bits. -/
theorem exponentFor_eq (f : BinaryFormat) {num den : ℕ} {e : ℤ} (hn : 0 < num) (hd : 0 < den)
    (hmin : f.minExponent ≤ e) (hlt : (num : ℚ) / den < 2 ^ (f.precision + e))
    (hle : e = f.minExponent ∨ (2 : ℚ) ^ (f.precision + e - 1) ≤ num / den) :
    f.exponentFor num den = e := by
  have hn' : (0 : ℚ) < num := by exact_mod_cast hn
  have hd' : (0 : ℚ) < den := by exact_mod_cast hd
  have hnum := two_zpow_log2_le hn
  have hnum' := lt_two_zpow_log2_succ num
  have hden := two_zpow_log2_le hd
  have hden' := lt_two_zpow_log2_succ den
  -- the value lies between the powers of two next to the difference of the bit lengths
  have hbelow : (num : ℚ) / den < 2 ^ ((Nat.log2 num : ℤ) - Nat.log2 den + 1) := by
    rw [div_lt_iff₀ hd', show (Nat.log2 num : ℤ) - Nat.log2 den + 1
      = (Nat.log2 num + 1) - Nat.log2 den by ring, zpow_sub₀ two_ne_zero]
    calc (num : ℚ) < 2 ^ ((Nat.log2 num : ℤ) + 1) := hnum'
      _ = 2 ^ ((Nat.log2 num : ℤ) + 1) / 2 ^ (Nat.log2 den : ℤ) * 2 ^ (Nat.log2 den : ℤ) := by
        rw [div_mul_cancel₀ _ (by positivity)]
      _ ≤ _ := by gcongr
  have habove : (2 : ℚ) ^ ((Nat.log2 num : ℤ) - Nat.log2 den - 1) < num / den := by
    rw [lt_div_iff₀ hd', show (Nat.log2 num : ℤ) - Nat.log2 den - 1
      = Nat.log2 num - (Nat.log2 den + 1) by ring, zpow_sub₀ two_ne_zero]
    calc (2 : ℚ) ^ (Nat.log2 num : ℤ) / 2 ^ ((Nat.log2 den : ℤ) + 1) * den
        < 2 ^ (Nat.log2 num : ℤ) / 2 ^ ((Nat.log2 den : ℤ) + 1) * 2 ^ ((Nat.log2 den : ℤ) + 1) := by
          gcongr
      _ = 2 ^ (Nat.log2 num : ℤ) := div_mul_cancel₀ _ (by positivity)
      _ ≤ num := hnum
  have hone : (1 : ℚ) < 2 := by norm_num
  -- the guess is the difference of the bit lengths, less the precision
  unfold exponentFor
  dsimp only
  generalize hg : (Nat.log2 num : ℤ) - Nat.log2 den - f.precision = g
  -- the guess is raised when the scaled value does not fit the precision
  have hfit : (scaleRatio num den g).1 < (scaleRatio num den g).2 * Nat.pow 2 f.precision ↔
      (num : ℚ) / den < 2 ^ (f.precision + g) := by
    have hpos : 0 < (scaleRatio num den g).2 := scaleRatio_snd_pos hd g
    have hpos' : (0 : ℚ) < (scaleRatio num den g).2 := by exact_mod_cast hpos
    rw [zpow_add₀ two_ne_zero, ← div_lt_iff₀ (by positivity), ← scaleRatio_value,
      div_lt_iff₀ hpos', zpow_natCast, mul_comm]
    norm_cast
  have hgt : (2 : ℚ) ^ (f.precision + g - 1) < num / den := by
    rw [show (f.precision : ℤ) + g - 1 = Nat.log2 num - Nat.log2 den - 1 by omega]
    exact habove
  -- both ways the powers of two leave no other exponent in range
  split
  · next h =>
    rw [hfit] at h
    have h1 : f.precision + e - 1 < f.precision + g ∨ e = f.minExponent :=
      hle.symm.imp_left fun h' => (zpow_lt_zpow_iff_right₀ hone).1 (h'.trans_lt h)
    have h2 : f.precision + g - 1 < f.precision + e :=
      (zpow_lt_zpow_iff_right₀ hone).1 (hgt.trans hlt)
    omega
  · next h =>
    rw [hfit, not_lt] at h
    have h0 : (num : ℚ) / den < 2 ^ (f.precision + g + 1) := by
      rw [show (f.precision : ℤ) + g + 1 = Nat.log2 num - Nat.log2 den + 1 by omega]
      exact hbelow
    have h1 : f.precision + e - 1 < f.precision + g + 1 ∨ e = f.minExponent :=
      hle.symm.imp_left fun h' => (zpow_lt_zpow_iff_right₀ hone).1 (h'.trans_lt h0)
    have h2 : f.precision + g < f.precision + e :=
      (zpow_lt_zpow_iff_right₀ hone).1 (h.trans_lt hlt)
    omega

/-- A value whose scaled form rounds to a significand below the precision rounds to it. -/
theorem round_eq (f : BinaryFormat) {num den m : ℕ} {e : ℤ} (hn : 0 < num)
    (he : f.exponentFor num den = e)
    (hm : divHalfEven (scaleRatio num den e).1 (scaleRatio num den e).2 = m)
    (hlt : m ≠ 2 ^ f.precision) : f.round num den = (m, e) := by
  have hne : ¬ num = 0 := by omega
  simp only [round, if_neg hne, he, hm]
  exact if_neg hlt

/-- A value whose scaled form rounds up to the precision rounds to the next power of two. -/
theorem round_eq_carry (f : BinaryFormat) {num den : ℕ} {e : ℤ} (hn : 0 < num)
    (he : f.exponentFor num den = e)
    (hm : divHalfEven (scaleRatio num den e).1 (scaleRatio num den e).2 = 2 ^ f.precision) :
    f.round num den = (2 ^ (f.precision - 1), e + 1) := by
  have hne : ¬ num = 0 := by omega
  simp only [round, if_neg hne, he, hm]
  exact if_pos rfl

end BinaryFormat

/-! ## The interval of a number -/

namespace Binary64

/-- The magnitude, exactly. -/
def magnitude (x : Binary64) : ℚ := x.significand * 2 ^ x.exponent

/-- The lower bound of the values that round to the number. -/
def lowerEdge (x : Binary64) : ℚ := (Decimal.roundingInterval x).low / 4 * 2 ^ x.exponent

/-- The upper bound of the values that round to the number. -/
def upperEdge (x : Binary64) : ℚ := (Decimal.roundingInterval x).high / 4 * 2 ^ x.exponent

/-- **The values that round to the number**: those between the two edges, and the edges themselves
if the significand is even. -/
def Covers (x : Binary64) (q : ℚ) : Prop :=
  if (Decimal.roundingInterval x).closed then x.lowerEdge ≤ q ∧ q ≤ x.upperEdge
  else x.lowerEdge < q ∧ q < x.upperEdge

theorem Covers.lowerEdge_le {x : Binary64} {q : ℚ} (h : x.Covers q) : x.lowerEdge ≤ q := by
  unfold Covers at h
  split at h
  · exact h.1
  · exact h.1.le

theorem Covers.le_upperEdge {x : Binary64} {q : ℚ} (h : x.Covers q) : q ≤ x.upperEdge := by
  unfold Covers at h
  split at h
  · exact h.2
  · exact h.2.le

/-- Strictly between the edges every value rounds to the number. -/
theorem covers_of_lt {x : Binary64} {q : ℚ} (lo : x.lowerEdge < q) (hi : q < x.upperEdge) :
    x.Covers q := by
  unfold Covers
  split
  · exact ⟨lo.le, hi.le⟩
  · exact ⟨lo, hi⟩

/-- An odd significand has open edges. -/
theorem Covers.tie {x : Binary64} {q : ℚ} (h : x.Covers q) :
    x.significand % 2 = 0 ∨ (x.lowerEdge < q ∧ q < x.upperEdge) := by
  unfold Covers at h
  split at h
  · next hc => exact .inl (by simpa [Decimal.roundingInterval] using hc)
  · exact .inr h

theorem upperEdge_eq (x : Binary64) : x.upperEdge = (x.significand + 1 / 2) * 2 ^ x.exponent := by
  simp only [upperEdge, Decimal.roundingInterval]
  push_cast
  ring

/-- Half a unit below, where the units below are as large. -/
theorem lowerEdge_eq {x : Binary64} (hm : x.significand ≠ 0)
    (h : x.significand ≠ 0x10000000000000 ∨ x.exponent = -1074) :
    x.lowerEdge = (x.significand - 1 / 2) * 2 ^ x.exponent := by
  have hn : ¬ (x.significand = 0x10000000000000 ∧ x.exponent ≠ -1074) := by tauto
  simp only [lowerEdge, Decimal.roundingInterval, if_neg hn]
  rw [Nat.cast_sub (by omega)]
  push_cast
  ring

/-- A quarter of a unit below a power of two, where the units below are half as large. -/
theorem lowerEdge_eq_of_power {x : Binary64} (hm : x.significand = 0x10000000000000)
    (he : x.exponent ≠ -1074) :
    x.lowerEdge = (0x10000000000000 - 1 / 4) * 2 ^ x.exponent := by
  simp only [lowerEdge, Decimal.roundingInterval, if_pos (And.intro hm he)]
  rw [hm]
  norm_num

/-- The lower bound is half a unit below at least, and a quarter of a unit at most. -/
theorem lowerEdge_bounds {x : Binary64} (hm : x.significand ≠ 0) :
    ((x.significand : ℚ) - 1 / 2) * 2 ^ x.exponent ≤ x.lowerEdge ∧
      x.lowerEdge ≤ ((x.significand : ℚ) - 1 / 4) * 2 ^ x.exponent := by
  have hpos : (0 : ℚ) ≤ 2 ^ x.exponent := by positivity
  by_cases hp : x.significand = 0x10000000000000 ∧ x.exponent ≠ -1074
  · rw [lowerEdge_eq_of_power hp.1 hp.2, hp.1]
    refine ⟨mul_le_mul_of_nonneg_right ?_ hpos, le_of_eq ?_⟩ <;> norm_num
  · rw [lowerEdge_eq hm (by tauto)]
    refine ⟨le_rfl, mul_le_mul_of_nonneg_right ?_ hpos⟩
    linarith

/-- The values of an interval are positive. -/
theorem Covers.pos {x : Binary64} {q : ℚ} (hm : x.significand ≠ 0) (h : x.Covers q) : 0 < q := by
  have hm1 : (1 : ℚ) ≤ x.significand := by exact_mod_cast Nat.one_le_iff_ne_zero.2 hm
  have hpos : (0 : ℚ) < 2 ^ x.exponent := by positivity
  have hhalf : (0 : ℚ) < ((x.significand : ℚ) - 1 / 2) * 2 ^ x.exponent :=
    mul_pos (by linarith) hpos
  exact hhalf.trans_le ((lowerEdge_bounds hm).1.trans h.lowerEdge_le)

/-- The values of an interval fit the precision. -/
theorem Covers.lt_two_zpow {x : Binary64} {q : ℚ} (h : x.Covers q) :
    q < 2 ^ (53 + x.exponent) := by
  have hm : (x.significand : ℚ) + 1 ≤ 2 ^ 53 := by exact_mod_cast x.canonical.1
  have hpos : (0 : ℚ) < 2 ^ x.exponent := by positivity
  have hhi := h.le_upperEdge
  rw [upperEdge_eq] at hhi
  rw [zpow_add₀ two_ne_zero]
  refine hhi.trans_lt ((mul_lt_mul_iff_left₀ hpos).2 ?_)
  norm_num at hm ⊢
  linarith

/-- A value from half a unit below on is the significand when rounded in units of the exponent. -/
theorem Covers.divHalfEven_eq {x : Binary64} {num den : ℕ} (hd : 0 < den)
    (h : x.Covers (num / den))
    (hlo : ((x.significand : ℚ) - 1 / 2) * 2 ^ x.exponent ≤ num / den)
    (htie : x.significand % 2 = 0 ∨
      ((x.significand : ℚ) - 1 / 2) * 2 ^ x.exponent < num / den) :
    divHalfEven (scaleRatio num den x.exponent).1 (scaleRatio num den x.exponent).2 =
      x.significand := by
  have hpos : (0 : ℚ) < 2 ^ x.exponent := by positivity
  have hhi := h.le_upperEdge
  rw [upperEdge_eq] at hhi
  apply DocSelect.divHalfEven_eq (scaleRatio_snd_pos hd _)
  · rw [scaleRatio_value, le_div_iff₀ hpos]
    exact hlo
  · rw [scaleRatio_value, div_le_iff₀ hpos]
    exact hhi
  · rcases h.tie with heven | ⟨-, hlt⟩
    · exact .inl heven
    · rw [upperEdge_eq] at hlt
      rw [scaleRatio_value, lt_div_iff₀ hpos, div_lt_iff₀ hpos]
      exact htie.imp_right fun h' => ⟨h', hlt⟩

/-- A value from the power of two below on has the exponent of the number. -/
theorem Covers.exponentFor_eq {x : Binary64} {num den : ℕ} (hn : 0 < num) (hd : 0 < den)
    (h : x.Covers (num / den))
    (hlo : x.exponent = -1074 ∨ (2 : ℚ) ^ 52 * 2 ^ x.exponent ≤ num / den) :
    BinaryFormat.double.exponentFor num den = x.exponent := by
  apply BinaryFormat.exponentFor_eq _ hn hd x.canonical.2.1
  · exact h.lt_two_zpow
  · refine hlo.imp id fun h' => ?_
    rw [show ((BinaryFormat.double.precision : ℕ) : ℤ) + x.exponent - 1 = 52 + x.exponent by
      simp only [BinaryFormat.double]; ring, zpow_add₀ two_ne_zero]
    exact_mod_cast h'

/-- Just below a power of two the units are half as large, and the value is rounded up to it. -/
theorem Covers.round_eq_below_power {x : Binary64} {num den : ℕ} (hn : 0 < num) (hd : 0 < den)
    (h : x.Covers (num / den)) (hm : x.significand = 0x10000000000000)
    (he : x.exponent ≠ -1074) (hlt : (num : ℚ) / den < 2 ^ 52 * 2 ^ x.exponent) :
    BinaryFormat.double.round num den = (x.significand, x.exponent) := by
  have hlo := h.lowerEdge_le
  rw [lowerEdge_eq_of_power hm he] at hlo
  have hmin := x.canonical.2.1
  have hprec : ((BinaryFormat.double.precision : ℕ) : ℤ) = 53 := rfl
  have hpos : (0 : ℚ) < 2 ^ x.exponent := by positivity
  have hhalf : (2 : ℚ) ^ (x.exponent - 1) = 2 ^ x.exponent / 2 := by
    rw [zpow_sub₀ two_ne_zero, zpow_one]
  have hexp : BinaryFormat.double.exponentFor num den = x.exponent - 1 := by
    apply BinaryFormat.exponentFor_eq _ hn hd
    · show -1074 ≤ x.exponent - 1
      omega
    · rw [hprec, show (53 : ℤ) + (x.exponent - 1) = 52 + x.exponent by ring,
        zpow_add₀ two_ne_zero]
      exact_mod_cast hlt
    · right
      rw [hprec, show (53 : ℤ) + (x.exponent - 1) - 1 = 51 + x.exponent by ring,
        zpow_add₀ two_ne_zero]
      refine le_trans ?_ hlo
      gcongr
      norm_num
  -- in units half as large the value is rounded up to the full precision, and carries
  have hdiv : DocSelect.divHalfEven (scaleRatio num den (x.exponent - 1)).1
      (scaleRatio num den (x.exponent - 1)).2 = 2 ^ BinaryFormat.double.precision := by
    apply DocSelect.divHalfEven_eq (scaleRatio_snd_pos hd _)
    · rw [scaleRatio_value, hhalf, le_div_iff₀ (by positivity)]
      simp only [BinaryFormat.double]
      push_cast
      linarith
    · rw [scaleRatio_value, hhalf, div_le_iff₀ (by positivity)]
      simp only [BinaryFormat.double]
      push_cast
      linarith
    · exact .inl (by decide)
  rw [BinaryFormat.round_eq_carry _ hn hexp hdiv, hm]
  simp [BinaryFormat.double]

/-- From the power of two on the units are those of the number. -/
theorem Covers.round_eq_of_units {x : Binary64} {num den : ℕ} (hn : 0 < num) (hd : 0 < den)
    (h : x.Covers (num / den))
    (hlo : ((x.significand : ℚ) - 1 / 2) * 2 ^ x.exponent ≤ num / den)
    (htie : x.significand % 2 = 0 ∨
      ((x.significand : ℚ) - 1 / 2) * 2 ^ x.exponent < num / den)
    (hexp : x.exponent = -1074 ∨ (2 : ℚ) ^ 52 * 2 ^ x.exponent ≤ num / den) :
    BinaryFormat.double.round num den = (x.significand, x.exponent) := by
  have hlt : x.significand ≠ 2 ^ BinaryFormat.double.precision := by
    have := x.canonical.1
    simp only [BinaryFormat.double]
    omega
  exact BinaryFormat.round_eq _ hn (h.exponentFor_eq hn hd hexp)
    (h.divHalfEven_eq hd hlo htie) hlt

/-- **Each ratio in the interval of a number rounds to it.** -/
theorem Covers.round_eq {x : Binary64} {num den : ℕ} (hm : x.significand ≠ 0) (hd : 0 < den)
    (h : x.Covers (num / den)) :
    BinaryFormat.double.round num den = (x.significand, x.exponent) := by
  have hd' : (0 : ℚ) < den := by exact_mod_cast hd
  have hpos : (0 : ℚ) < 2 ^ x.exponent := by positivity
  have hn : 0 < num := by
    have := (div_pos_iff_of_pos_right hd').1 (h.pos hm)
    exact_mod_cast this
  have hlo := h.lowerEdge_le
  -- only below a power of two are there numbers with smaller units
  by_cases hp : x.significand = 0x10000000000000 ∧ x.exponent ≠ -1074
  · by_cases hlt : (num : ℚ) / den < 2 ^ 52 * 2 ^ x.exponent
    · exact h.round_eq_below_power hn hd hp.1 hp.2 hlt
    · have hhalf := (lowerEdge_bounds hm).1.trans hlo
      exact h.round_eq_of_units hn hd hhalf (.inl (by rw [hp.1])) (.inr (not_lt.1 hlt))
  · have heq := lowerEdge_eq hm (by tauto)
    have htie := h.tie.imp_right And.left
    rw [heq] at hlo htie
    refine h.round_eq_of_units hn hd hlo htie ?_
    -- a full significand above the power of two is half a unit above it at least
    by_cases he : x.exponent = -1074
    · exact .inl he
    · right
      have hm' : 2 ^ 52 + 1 ≤ x.significand := by
        have := x.canonical.2.2.2
        omega
      have hm'' : (2 : ℚ) ^ 52 + 1 ≤ x.significand := by exact_mod_cast hm'
      refine le_trans ((mul_le_mul_iff_left₀ hpos).2 ?_) hlo
      linarith

/-- The rounded ratio is the number itself. -/
theorem ofRatio?_of_covers {x : Binary64} {num den : ℕ} (hm : x.significand ≠ 0) (hd : 0 < den)
    (h : x.Covers (num / den)) : ofRatio? x.negative num den = some x := by
  have hr := h.round_eq hm hd
  simp only [ofRatio?, hr]
  rw [dif_pos x.canonical]

end Binary64

end DocSelect
