import DocSelect.Proofs.Rounding
import Mathlib.Data.Int.Log
import Mathlib.Data.Rat.Floor
/-!
# Rounding finds the nearest number

A ratio is rounded to a whole number of units, and the units are chosen by its size. No binary
number is nearer to the ratio than the one that rounding finds: numbers with smaller units all lie
below a power of two that the ratio does not fall short of, and that power is a number of the
larger units.

* `Binary64.toRat` : the value of a binary number;
* `Binary64.Nearest` : no binary number is nearer to a value;
* `Binary64.ofRatio?_nearest` : **rounding finds a nearest number**;
* `Binary64.exists_ofNat?` : each whole number of moderate size has one.
-/

namespace DocSelect

/-! ## The nearest number of units -/

/-- The rounded quotient is half a unit away at most. -/
theorem abs_divHalfEven_sub_le {a b : ℕ} (hb : 0 < b) :
    |(divHalfEven a b : ℚ) - a / b| ≤ 1 / 2 := by
  have hb' : (0 : ℚ) < b := by exact_mod_cast hb
  have hdiv := Nat.div_add_mod a b
  have hmod := Nat.mod_lt a hb
  rw [abs_le]
  suffices h : 2 * a ≤ 2 * divHalfEven a b * b + b ∧ 2 * divHalfEven a b * b ≤ 2 * a + b by
    have h1 : (2 * a : ℚ) ≤ 2 * divHalfEven a b * b + b := by exact_mod_cast h.1
    have h2 : (2 * divHalfEven a b * b : ℚ) ≤ 2 * a + b := by exact_mod_cast h.2
    constructor
    · rw [neg_le_sub_iff_le_add, div_le_iff₀ hb']
      linarith
    · rw [sub_le_iff_le_add, add_div' _ _ _ hb'.ne', le_div_iff₀ hb']
      linarith
  unfold divHalfEven
  generalize hq : a / b = q at *
  generalize hm : a % b = m at *
  simp only
  split_ifs
  all_goals constructor <;> nlinarith

/-- No whole number is nearer to the quotient. -/
theorem divHalfEven_nearest {a b : ℕ} (hb : 0 < b) (k : ℤ) :
    |(divHalfEven a b : ℚ) - a / b| ≤ |(k : ℚ) - a / b| := by
  have hhalf := abs_divHalfEven_sub_le (a := a) hb
  by_cases hk : k = divHalfEven a b
  · rw [hk, Int.cast_natCast]
  · -- another whole number is one unit away from the quotient, so half a unit from the value
    have hone : (1 : ℚ) ≤ |(k : ℚ) - divHalfEven a b| := by
      have : 1 ≤ |k - (divHalfEven a b : ℤ)| := Int.one_le_abs (sub_ne_zero.2 hk)
      exact_mod_cast this
    have htriangle := abs_sub_le (k : ℚ) (a / b) (divHalfEven a b)
    rw [abs_sub_comm ((a : ℚ) / b)] at htriangle
    linarith

/-- The rounded number of units is half a unit away at most. -/
theorem abs_divHalfEven_scaleRatio_sub_le (num : ℕ) {den : ℕ} (hd : 0 < den) (e : ℤ) :
    |(divHalfEven (scaleRatio num den e).1 (scaleRatio num den e).2 : ℚ) - num / den / 2 ^ e| ≤
      1 / 2 := by
  rw [← scaleRatio_value]
  exact abs_divHalfEven_sub_le (scaleRatio_snd_pos hd e)

namespace BinaryFormat

/-- The exponent is the smallest one, or the value has all the bits of the precision. -/
theorem exponentFor_bounds (f : BinaryFormat) {num den : ℕ} (hn : 0 < num) (hd : 0 < den) :
    f.minExponent ≤ f.exponentFor num den ∧
      (num : ℚ) / den < 2 ^ (f.precision + f.exponentFor num den) ∧
      (f.exponentFor num den = f.minExponent ∨
        (2 : ℚ) ^ (f.precision + f.exponentFor num den - 1) ≤ num / den) := by
  have hn' : (0 : ℚ) < num := by exact_mod_cast hn
  have hd' : (0 : ℚ) < den := by exact_mod_cast hd
  have hq : (0 : ℚ) < num / den := div_pos hn' hd'
  have hle := Int.zpow_log_le_self (b := 2) (by decide) hq
  have hlt := Int.lt_zpow_succ_log_self (b := 2) (by decide) ((num : ℚ) / den)
  generalize hlog : Int.log 2 ((num : ℚ) / den) = g at hle hlt
  push_cast at hle hlt
  have hone : (1 : ℚ) ≤ 2 := by norm_num
  -- the exponent that the size of the value asks for
  obtain ⟨e, he⟩ : ∃ e, e = max f.minExponent (g + 1 - f.precision) := ⟨_, rfl⟩
  have hmin : f.minExponent ≤ e := by omega
  have hbelow : (num : ℚ) / den < 2 ^ (f.precision + e) :=
    hlt.trans_le (zpow_le_zpow_right₀ hone (by omega))
  have habove : e = f.minExponent ∨ (2 : ℚ) ^ (f.precision + e - 1) ≤ num / den := by
    rcases max_choice f.minExponent (g + 1 - f.precision) with h | h
    · exact .inl (by omega)
    · exact .inr ((zpow_le_zpow_right₀ hone (by omega)).trans hle)
  rw [f.exponentFor_eq hn hd hmin hbelow habove]
  exact ⟨hmin, hbelow, habove⟩

/-- The value of the rounded ratio: a carry to the next power of two does not change it. -/
theorem round_value (f : BinaryFormat) {num den : ℕ} (hp : 0 < f.precision) (hn : 0 < num) :
    ((f.round num den).1 : ℚ) * 2 ^ (f.round num den).2 =
      divHalfEven (scaleRatio num den (f.exponentFor num den)).1
        (scaleRatio num den (f.exponentFor num den)).2 * 2 ^ f.exponentFor num den := by
  by_cases hcarry : divHalfEven (scaleRatio num den (f.exponentFor num den)).1
      (scaleRatio num den (f.exponentFor num den)).2 = 2 ^ f.precision
  · rw [f.round_eq_carry hn rfl hcarry, hcarry]
    obtain ⟨k, hk⟩ : ∃ k, f.precision = k + 1 := ⟨f.precision - 1, by omega⟩
    rw [hk, Nat.add_sub_cancel, zpow_add₀ two_ne_zero]
    push_cast
    ring
  · rw [f.round_eq hn rfl rfl hcarry]

/-- No multiple of the unit is nearer to the ratio than the rounded ratio. -/
theorem round_nearest (f : BinaryFormat) {num den : ℕ} (hp : 0 < f.precision) (hn : 0 < num)
    (hd : 0 < den) (k : ℤ) :
    |((f.round num den).1 : ℚ) * 2 ^ (f.round num den).2 - num / den| ≤
      |(k : ℚ) * 2 ^ f.exponentFor num den - num / den| := by
  rw [f.round_value hp hn]
  generalize f.exponentFor num den = e
  have hpos : (0 : ℚ) < 2 ^ e := by positivity
  have hunits : (num : ℚ) / den =
      ((scaleRatio num den e).1 : ℚ) / (scaleRatio num den e).2 * 2 ^ e := by
    rw [scaleRatio_value, div_mul_cancel₀ _ hpos.ne']
  rw [hunits, ← sub_mul, ← sub_mul, abs_mul, abs_mul]
  exact mul_le_mul_of_nonneg_right (divHalfEven_nearest (scaleRatio_snd_pos hd e) k) (abs_nonneg _)

end BinaryFormat

/-! ## The nearest binary number -/

namespace Binary64

/-- The value. -/
def toRat (x : Binary64) : ℚ := if x.negative then -x.magnitude else x.magnitude

/-- No binary number is nearer to the value. -/
def Nearest (x : Binary64) (q : ℚ) : Prop := ∀ y : Binary64, |x.toRat - q| ≤ |y.toRat - q|

theorem magnitude_nonneg (x : Binary64) : 0 ≤ x.magnitude := by
  unfold magnitude
  positivity

theorem toRat_le_magnitude (x : Binary64) : x.toRat ≤ x.magnitude := by
  have := x.magnitude_nonneg
  unfold toRat
  split <;> linarith

theorem magnitude_lt_zpow (x : Binary64) : x.magnitude < 2 ^ (53 + x.exponent) := by
  have hm : (x.significand : ℚ) < 2 ^ (53 : ℤ) := by exact_mod_cast x.canonical.1
  rw [zpow_add₀ two_ne_zero]
  exact (mul_lt_mul_iff_left₀ (by positivity)).2 hm

/-- A number is a multiple of each unit up to its own. -/
theorem toRat_eq_mul_zpow {x : Binary64} {e : ℤ} (he : e ≤ x.exponent) :
    ∃ k : ℤ, x.toRat = k * 2 ^ e := by
  obtain ⟨n, hn⟩ := Int.eq_ofNat_of_zero_le (show 0 ≤ x.exponent - e by omega)
  have hsplit : x.exponent = n + e := by omega
  have hmagnitude : x.magnitude = ((x.significand * 2 ^ n : ℤ) : ℚ) * 2 ^ e := by
    rw [magnitude, hsplit, zpow_add₀ two_ne_zero, zpow_natCast]
    push_cast
    ring
  unfold toRat
  split
  · exact ⟨-(x.significand * 2 ^ n), by rw [hmagnitude, Int.cast_neg, neg_mul]⟩
  · exact ⟨x.significand * 2 ^ n, hmagnitude⟩

/-- **Rounding finds a nearest number.** -/
theorem ofRatio?_nearest {num den : ℕ} {x : Binary64} (hd : 0 < den)
    (h : ofRatio? false num den = some x) : x.Nearest (num / den) := by
  intro y
  unfold ofRatio? at h
  simp only [Option.dite_none_right_eq_some, Option.some.injEq] at h
  obtain ⟨-, rfl⟩ := h
  rcases Nat.eq_zero_or_pos num with rfl | hn
  · simp [toRat, magnitude]
  have hnearest := BinaryFormat.double.round_nearest (by decide) hn hd
  obtain ⟨hmin, -, hpower⟩ := BinaryFormat.double.exponentFor_bounds hn hd
  show |((BinaryFormat.double.round num den).1 : ℚ) * 2 ^ (BinaryFormat.double.round num den).2 -
    num / den| ≤ _
  generalize BinaryFormat.double.exponentFor num den = e at *
  by_cases he : e ≤ y.exponent
  · -- the number is a multiple of the unit
    obtain ⟨k, hk⟩ := toRat_eq_mul_zpow he
    rw [hk]
    exact hnearest k
  · -- the number has smaller units: it lies below a power of two that the ratio reaches
    have hne : e ≠ BinaryFormat.double.minExponent := by
      have hy := y.canonical.2.1
      show e ≠ -1074
      omega
    have hfull : (2 : ℚ) ^ (52 + e) ≤ num / den := by
      refine le_of_eq_of_le ?_ (hpower.resolve_left hne)
      congr 1
      show 52 + e = 53 + e - 1
      omega
    have hbelow : y.toRat ≤ 2 ^ (52 + e) := by
      refine y.toRat_le_magnitude.trans (y.magnitude_lt_zpow.le.trans ?_)
      exact zpow_le_zpow_right₀ (by norm_num) (by omega)
    have hunits : (((2 ^ 52 : ℤ) : ℚ)) * 2 ^ e = 2 ^ (52 + e) := by
      rw [zpow_add₀ two_ne_zero]
      norm_num
    refine (hnearest (2 ^ 52)).trans ?_
    rw [hunits, abs_of_nonpos (by linarith), abs_of_nonpos (by linarith)]
    linarith

/-- A ratio below the range of the largest exponents is rounded to a number in canonical form. -/
theorem canonical_round {num den : ℕ} (hn : 0 < num) (hd : 0 < den)
    (h : (num : ℚ) / den < 2 ^ 1000) :
    Canonical (BinaryFormat.double.round num den).1 (BinaryFormat.double.round num den).2 := by
  obtain ⟨hmin, hlt, hpower⟩ := BinaryFormat.double.exponentFor_bounds hn hd
  have hhalf := abs_le.1 (abs_divHalfEven_scaleRatio_sub_le num hd
    (BinaryFormat.double.exponentFor num den))
  generalize he : BinaryFormat.double.exponentFor num den = e at *
  generalize hm : divHalfEven (scaleRatio num den e).1 (scaleRatio num den e).2 = m at *
  have hpos : (0 : ℚ) < 2 ^ e := by positivity
  replace hmin : -1074 ≤ e := hmin
  have hmax : e ≤ 970 := by
    rcases hpower with rfl | hpower
    · decide
    · have hexp := (zpow_lt_zpow_iff_right₀ (by norm_num : (1 : ℚ) < 2)).1
        (hpower.trans_lt (by exact_mod_cast h : (num : ℚ) / den < 2 ^ (1000 : ℤ)))
      have hprecision : (BinaryFormat.double.precision : ℤ) = 53 := rfl
      omega
  -- the bounds of the rounded quotient
  have hle : m ≤ 2 ^ 53 := by
    have hquotient : (num : ℚ) / den / 2 ^ e < 2 ^ 53 := by
      rw [div_lt_iff₀ hpos, ← zpow_natCast, ← zpow_add₀ two_ne_zero]
      exact hlt
    have hm' : (m : ℚ) < 2 ^ 53 + 1 := by linarith [hhalf.2]
    exact Nat.lt_succ_iff.1 (by exact_mod_cast hm')
  have hge : e = -1074 ∨ 2 ^ 52 ≤ m := by
    refine hpower.imp id fun hpower => ?_
    have hquotient : (2 : ℚ) ^ 52 ≤ num / den / 2 ^ e := by
      rw [le_div_iff₀ hpos, ← zpow_natCast, ← zpow_add₀ two_ne_zero]
      refine le_of_eq_of_le ?_ hpower
      congr 1
      show 52 + e = 53 + e - 1
      omega
    have hm' : (2 : ℚ) ^ 52 - 1 < m := by linarith [hhalf.1]
    have hm'' : (2 : ℚ) ^ 52 < m + 1 := by linarith
    exact Nat.lt_succ_iff.1 (by exact_mod_cast hm'')
  by_cases hcarry : m = 2 ^ 53
  · -- a carry leaves the smallest full significand, one exponent up
    rw [BinaryFormat.double.round_eq_carry hn he (hm.trans hcarry)]
    refine ⟨?_, ?_, ?_, .inl ?_⟩
    · show 2 ^ 52 < 0x20000000000000
      decide
    · show -1074 ≤ e + 1
      omega
    · show e + 1 ≤ 971
      omega
    · show 0x10000000000000 ≤ 2 ^ 52
      decide
  · rw [BinaryFormat.double.round_eq hn he hm hcarry]
    refine ⟨?_, hmin, ?_, ?_⟩
    · show m < 2 ^ 53
      omega
    · show e ≤ 971
      omega
    · exact hge.symm

/-- Each whole number of 64 bits has a nearest binary number. -/
theorem exists_ofNat? {n : ℕ} (h : n < 2 ^ 64) : ∃ x, ofNat? n = some x := by
  rcases Nat.eq_zero_or_pos n with rfl | hn
  · exact ⟨zero false, rfl⟩
  · have hlt : (n : ℚ) / (1 : ℕ) < 2 ^ 1000 := by
      rw [Nat.cast_one, div_one]
      calc (n : ℚ) < 2 ^ 64 := by exact_mod_cast h
        _ ≤ 2 ^ 1000 := by gcongr <;> norm_num
    have hc := canonical_round hn Nat.one_pos hlt
    exact ⟨_, dif_pos hc⟩

end Binary64

end DocSelect
