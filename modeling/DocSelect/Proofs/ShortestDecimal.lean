import DocSelect.Proofs.Rounding
import DocSelect.Proofs.Digits
import Mathlib.Data.Nat.Cast.Order.Field
import Mathlib.Data.Nat.Cast.Field
/-!
# Shortest decimals read back

The decimal in the fewest digits that stands for a binary number rounds to this number.

* `Decimal.toRat` : the exact value of a decimal;
* `Decimal.readsBack_iff` : the test of a decimal is membership in the interval of the number;
* `Decimal.onGrid?_ne_none` : seventeen digits always suffice, for their grid is finer than the
  interval is wide;
* `Decimal.covers_shortest` : **the shortest decimal lies in the interval of its number**;
* `Decimal.toBinary64Within?_eq_some` : each decimal with the value of the shortest one is read as
  the number.
-/

namespace DocSelect

/-! ## Ratios of ten -/

theorem lt_ten_zpow_digitCount (n : ℕ) : (n : ℚ) < 10 ^ (digitCount n : ℤ) := by
  have h : n < 10 ^ digitCount n :=
    (Nat.length_toDigits_le_iff (by decide) Nat.length_toDigits_pos).1 le_rfl
  rw [zpow_natCast]
  exact_mod_cast h

theorem ten_zpow_digitCount_le {n : ℕ} (hn : 0 < n) : (10 : ℚ) ^ ((digitCount n : ℤ) - 1) ≤ n := by
  obtain ⟨k, hk⟩ : ∃ k, digitCount n = k + 1 :=
    Nat.exists_eq_succ_of_ne_zero (Nat.pos_iff_ne_zero.1 Nat.length_toDigits_pos)
  rw [hk, show ((k + 1 : ℕ) : ℤ) - 1 = (k : ℤ) by omega, zpow_natCast]
  have h : 10 ^ k ≤ n := by
    rcases Nat.eq_zero_or_pos k with rfl | hk0
    · simpa using Nat.succ_le_of_lt hn
    · by_contra hlt
      have := (Nat.length_toDigits_le_iff (n := n) (by decide) hk0).2 (not_le.1 hlt)
      have hk' : (Nat.toDigits 10 n).length = k + 1 := hk
      omega
  exact_mod_cast h

namespace Decimal

/-- The value, exactly. -/
def toRat (d : Decimal) : ℚ := d.coefficient * 10 ^ d.scale

theorem scaled_snd_pos {num den : ℕ} (hd : 0 < den) (s : ℤ) : 0 < (scaled num den s).2 :=
  (ratio_div_zpow 10 num den (by decide) s).1 hd

/-- Scaling divides the value of the ratio by the power of ten. -/
theorem scaled_value (num den : ℕ) (s : ℤ) :
    ((scaled num den s).1 : ℚ) / (scaled num den s).2 = num / den / 10 ^ s := by
  exact_mod_cast (ratio_div_zpow 10 num den (by decide) s).2

/-- The power of ten of the first digit is at most the value. -/
theorem ten_zpow_leadingExponent_le {num den : ℕ} (hn : 0 < num) (hd : 0 < den) :
    (10 : ℚ) ^ leadingExponent num den ≤ num / den := by
  have hd' : (0 : ℚ) < den := by exact_mod_cast hd
  unfold leadingExponent
  dsimp only
  generalize hg : (digitCount num : ℤ) - digitCount den = g
  split
  · next h =>
    have hpos : (0 : ℚ) < (scaled num den g).2 := by exact_mod_cast scaled_snd_pos hd g
    have hone : (1 : ℚ) ≤ num / den / 10 ^ g := by
      rw [← scaled_value, one_le_div hpos]
      exact_mod_cast h
    rwa [le_div_iff₀ (by positivity), one_mul] at hone
  · rw [le_div_iff₀ hd', show g - 1 = ((digitCount num : ℤ) - 1) - digitCount den by omega,
      zpow_sub₀ (by norm_num : (10 : ℚ) ≠ 0)]
    calc (10 : ℚ) ^ ((digitCount num : ℤ) - 1) / 10 ^ (digitCount den : ℤ) * den
        ≤ 10 ^ ((digitCount num : ℤ) - 1) / 10 ^ (digitCount den : ℤ) *
            10 ^ (digitCount den : ℤ) := by
          gcongr
          exact (lt_ten_zpow_digitCount den).le
      _ = 10 ^ ((digitCount num : ℤ) - 1) := div_mul_cancel₀ _ (by positivity)
      _ ≤ num := ten_zpow_digitCount_le hn

end Decimal

/-! ## The width of the interval -/

namespace Binary64

theorem ratio_snd_pos (x : Binary64) : 0 < x.ratio.2 :=
  (ratio_mul_zpow 2 x.significand (by decide) x.exponent).1

/-- The ratio has the value of the magnitude. -/
theorem ratio_value (x : Binary64) : (x.ratio.1 : ℚ) / x.ratio.2 = x.magnitude := by
  exact_mod_cast (ratio_mul_zpow 2 x.significand (by decide) x.exponent).2

theorem magnitude_pos {x : Binary64} (hm : x.significand ≠ 0) : 0 < x.magnitude := by
  have : (0 : ℚ) < x.significand := by exact_mod_cast Nat.pos_of_ne_zero hm
  unfold magnitude
  positivity

theorem ratio_fst_pos {x : Binary64} (hm : x.significand ≠ 0) : 0 < x.ratio.1 := by
  have hd : (0 : ℚ) < x.ratio.2 := by exact_mod_cast x.ratio_snd_pos
  have h := magnitude_pos hm
  rw [← ratio_value, div_pos_iff_of_pos_right hd] at h
  exact_mod_cast h

theorem lowerEdge_lt_magnitude {x : Binary64} (hm : x.significand ≠ 0) :
    x.lowerEdge < x.magnitude := by
  refine (lowerEdge_bounds hm).2.trans_lt ?_
  rw [magnitude]
  refine (mul_lt_mul_iff_left₀ (by positivity)).2 ?_
  linarith

theorem magnitude_lt_upperEdge (x : Binary64) : x.magnitude < x.upperEdge := by
  rw [upperEdge_eq, magnitude]
  refine (mul_lt_mul_iff_left₀ (by positivity)).2 ?_
  linarith

/-- A number rounds to itself. -/
theorem covers_magnitude {x : Binary64} (hm : x.significand ≠ 0) : x.Covers x.magnitude :=
  covers_of_lt (lowerEdge_lt_magnitude hm) x.magnitude_lt_upperEdge

/-- The interval of a number is wider than the number in units of its sixteenth decimal. -/
theorem magnitude_lt_width {x : Binary64} (hm : x.significand ≠ 0) :
    x.magnitude < 10 ^ 16 * (x.upperEdge - x.lowerEdge) := by
  have hpos : (0 : ℚ) < 2 ^ x.exponent := by positivity
  rw [upperEdge_eq, magnitude]
  -- the interval of a power of two is narrower, but so is its significand smaller
  by_cases hp : x.significand = 0x10000000000000 ∧ x.exponent ≠ -1074
  · rw [lowerEdge_eq_of_power hp.1 hp.2, hp.1, ← sub_mul, ← mul_assoc]
    refine (mul_lt_mul_iff_left₀ hpos).2 ?_
    norm_num
  · have hlt : (x.significand : ℚ) < 2 ^ 53 := by exact_mod_cast x.canonical.1
    rw [lowerEdge_eq hm (by tauto), ← sub_mul, ← mul_assoc]
    refine (mul_lt_mul_iff_left₀ hpos).2 ?_
    norm_num at hlt ⊢
    linarith

end Binary64

/-! ## Decimals in the interval of a number -/

namespace Decimal

open Binary64

/-- An edge in quarters of a ratio is compared with another ratio in whole numbers. -/
theorem mul_le_mul_iff_ratio {a b c d : ℕ} (k : ℕ) (hb : 0 < b) (hd : 0 < d) :
    (k * a * d ≤ 4 * c * b ↔ (k : ℚ) / 4 * (a / b) ≤ c / d) ∧
      (4 * c * b ≤ k * a * d ↔ (c : ℚ) / d ≤ k / 4 * (a / b)) := by
  have hb' : (0 : ℚ) < b := by exact_mod_cast hb
  have hd' : (0 : ℚ) < d := by exact_mod_cast hd
  rw [div_mul_div_comm, div_le_div_iff₀ (by positivity) hd', div_le_div_iff₀ hd' (by positivity),
    show (c : ℚ) * (4 * b) = 4 * c * b by ring]
  exact ⟨by norm_cast, by norm_cast⟩

/-- **The test of a decimal is membership in the interval of the number.** -/
theorem readsBack_iff (x : Binary64) (c : ℕ) (scale : ℤ) :
    readsBack x c scale = true ↔ x.Covers (c * 10 ^ scale) := by
  -- both powers are ratios of whole numbers, and the test multiplies these out
  obtain ⟨hb, hunit⟩ := ratio_mul_zpow 2 1 (by decide) x.exponent
  obtain ⟨hd, hval⟩ := ratio_mul_zpow 10 c (by decide) scale
  simp only [Nat.cast_one, one_mul, Nat.cast_ofNat] at hb hunit hd hval
  unfold readsBack Covers lowerEdge upperEdge
  dsimp only
  rw [← hunit, ← hval]
  generalize (if 0 ≤ x.exponent then (Nat.pow 2 x.exponent.toNat, 1)
    else (1, Nat.pow 2 (-x.exponent).toNat)) = u at hb
  generalize (if 0 ≤ scale then (c * Nat.pow 10 scale.toNat, 1)
    else (c, Nat.pow 10 (-scale).toNat)) = v at hd
  have hle (k : ℕ) := mul_le_mul_iff_ratio (a := u.1) (c := v.1) k hb hd
  split
  · rw [Bool.and_eq_true, decide_eq_true_iff, decide_eq_true_iff, (hle _).1, (hle _).2]
  · rw [Bool.and_eq_true, decide_eq_true_iff, decide_eq_true_iff, ← not_le, ← not_le, (hle _).1,
      (hle _).2, not_le, not_le]

/-- The floor of the value on a grid, and the next point of the grid, enclose the value. -/
theorem grid_floor (x : Binary64) (s : ℤ) :
    let v := scaled x.ratio.1 x.ratio.2 s
    ((v.1 / v.2 : ℕ) : ℚ) * 10 ^ s ≤ x.magnitude ∧
      x.magnitude < ((v.1 / v.2 + 1 : ℕ) : ℚ) * 10 ^ s ∧
      (v.1 % v.2 = 0 → ((v.1 / v.2 : ℕ) : ℚ) * 10 ^ s = x.magnitude) := by
  intro v
  have hv : (0 : ℚ) < v.2 := by exact_mod_cast scaled_snd_pos x.ratio_snd_pos s
  have hval : (v.1 : ℚ) / v.2 * 10 ^ s = x.magnitude := by
    rw [scaled_value, ratio_value]
    exact div_mul_cancel₀ _ (by positivity)
  rw [← hval]
  refine ⟨?_, ?_, fun h => ?_⟩
  · gcongr
    exact Nat.cast_div_le
  · gcongr
    rw [div_lt_iff₀ hv]
    exact_mod_cast Nat.lt_mul_of_div_lt (Nat.lt_succ_self _) (scaled_snd_pos x.ratio_snd_pos s)
  · rw [Nat.cast_div (Nat.dvd_of_mod_eq_zero h) hv.ne']

/-- A decimal found on a grid lies in the interval of the number. -/
theorem covers_of_onGrid? {tie : TieRule} {x : Binary64} {s : ℤ} {c : ℕ} (hm : x.significand ≠ 0)
    (h : onGrid? tie x s = some c) : x.Covers (c * 10 ^ s) := by
  unfold onGrid? at h
  dsimp only at h
  split at h
  · next hr =>
    rw [Option.some.injEq] at h
    rw [← h, (grid_floor x s).2.2 hr]
    exact covers_magnitude hm
  · split at h
    · contradiction
    · next h1 _ =>
      rw [Option.some.injEq] at h
      exact h ▸ (readsBack_iff x _ s).1 h1
    · next _ h2 =>
      rw [Option.some.injEq] at h
      exact h ▸ (readsBack_iff x _ s).1 h2
    · next h1 h2 =>
      have h3 := (readsBack_iff x _ s).1 h1
      have h4 := (readsBack_iff x _ s).1 h2
      cases tie <;> simp only at h <;> split_ifs at h <;> rw [Option.some.injEq] at h <;>
        subst h <;> assumption

/-- A grid finer than the interval of the number is wide has a point in it. -/
theorem onGrid?_ne_none {tie : TieRule} {x : Binary64} {s : ℤ} (hm : x.significand ≠ 0)
    (hs : 10 ^ 16 * (10 : ℚ) ^ s ≤ x.magnitude) : onGrid? tie x s ≠ none := by
  intro h
  unfold onGrid? at h
  dsimp only at h
  split at h
  · contradiction
  · split at h
    · next h1 h2 =>
      obtain ⟨hlo, hhi, -⟩ := grid_floor x s
      have hc (c : ℕ) (hc : readsBack x c s = false) : ¬ x.Covers (c * 10 ^ s) := by
        rw [← readsBack_iff, hc]
        simp
      -- neither neighbour is inside, so both edges lie between them
      have hlow := not_lt.1 fun hlt =>
        hc _ h1 (covers_of_lt hlt (hlo.trans_lt x.magnitude_lt_upperEdge))
      have hupp := not_lt.1 fun hlt =>
        hc _ h2 (covers_of_lt ((lowerEdge_lt_magnitude hm).trans hhi) hlt)
      have hwidth := magnitude_lt_width hm
      push_cast at hlow hupp
      linarith
    · contradiction
    · contradiction
    · cases tie <;> simp only at h <;> split_ifs at h

/-- The first grid with a point in the interval is found. -/
theorem covers_firstGrid {tie : TieRule} {x : Binary64} (hm : x.significand ≠ 0) :
    ∀ fuel digits : ℕ, fuel + digits = 17 →
      x.Covers (firstGrid tie x (leadingExponent x.ratio.1 x.ratio.2) (fuel + 1) digits).toRat := by
  intro fuel
  -- fuel is left until the grid of seventeen digits, which has a point in the interval
  induction fuel with
  | zero =>
    intro digits hdigits
    obtain rfl : digits = 17 := by omega
    have hlead := ten_zpow_leadingExponent_le (ratio_fst_pos hm) x.ratio_snd_pos
    rw [ratio_value] at hlead
    rw [firstGrid]
    split
    · next h => exact covers_of_onGrid? hm h
    · next h =>
      refine absurd h (onGrid?_ne_none hm (le_trans (le_of_eq ?_) hlead))
      rw [← zpow_natCast, ← zpow_add₀ (by norm_num)]
      congr 1
      push_cast
      ring
  | succ fuel ih =>
    intro digits hdigits
    rw [firstGrid]
    split
    · next h => exact covers_of_onGrid? hm h
    · exact ih (digits + 1) (by omega)

/-! ## Trailing zeros -/

theorem toRat_trim (fuel c : ℕ) (s : ℤ) : (trim fuel c s).toRat = c * 10 ^ s := by
  fun_induction trim fuel c s with
  | case1 c s => rfl
  | case2 fuel c s h ih =>
    rw [ih, zpow_add_one₀ (by norm_num : (10 : ℚ) ≠ 0)]
    obtain ⟨k, rfl⟩ := Nat.dvd_of_mod_eq_zero h.2
    rw [Nat.mul_div_cancel_left _ (by decide)]
    push_cast
    ring
  | case3 fuel c s h => rfl

@[simp] theorem toRat_normalize (d : Decimal) : d.normalize.toRat = d.toRat := by
  unfold normalize
  split
  · next h => simp [toRat, h]
  · exact toRat_trim _ _ _

/-- **The shortest decimal lies in the interval of its number.** -/
theorem covers_shortest (tie : TieRule) {x : Binary64} (hm : x.significand ≠ 0) :
    x.Covers (shortest tie x).toRat := by
  have hz : ¬ x.isZero = true := by simpa [isZero] using hm
  rw [shortest, if_neg hz, toRat_normalize]
  exact covers_firstGrid hm 16 1 rfl

/-! ## The number of a decimal -/

/-- The first digit of a decimal bounds its value from below. -/
theorem ten_zpow_lead_le {d : Decimal} (hd : d.coefficient ≠ 0) : (10 : ℚ) ^ d.lead ≤ d.toRat := by
  rw [lead, toRat, show d.scale + (digitCount d.coefficient : ℤ) - 1
    = ((digitCount d.coefficient : ℤ) - 1) + d.scale by ring,
    zpow_add₀ (by norm_num : (10 : ℚ) ≠ 0)]
  gcongr
  exact ten_zpow_digitCount_le (Nat.pos_of_ne_zero hd)

/-- The first digit of a decimal bounds its value from above. -/
theorem toRat_lt_ten_zpow (d : Decimal) : d.toRat < 10 ^ (d.lead + 1) := by
  rw [lead, toRat, show d.scale + (digitCount d.coefficient : ℤ) - 1 + 1
    = (digitCount d.coefficient : ℤ) + d.scale by ring,
    zpow_add₀ (by norm_num : (10 : ℚ) ≠ 0)]
  gcongr
  exact lt_ten_zpow_digitCount _

theorem coefficient_ne_zero_of_covers {d : Decimal} {x : Binary64} (hm : x.significand ≠ 0)
    (h : x.Covers d.toRat) : d.coefficient ≠ 0 := fun h0 => by
  have := h.pos hm
  simp [toRat, h0] at this

/-- A decimal in the interval of a number is far from the bounds at which reading gives up. -/
theorem lead_bounds {d : Decimal} {x : Binary64} (hm : x.significand ≠ 0)
    (h : x.Covers d.toRat) : -400 ≤ d.lead ∧ d.lead ≤ 400 := by
  have hd := coefficient_ne_zero_of_covers hm h
  have hone : (1 : ℚ) < 10 := by norm_num
  constructor
  · -- no edge is below half of the smallest unit
    have hlow : (10 : ℚ) ^ (-400 : ℤ) < 10 ^ (d.lead + 1) := by
      refine lt_of_lt_of_le ?_ (h.lowerEdge_le.trans d.toRat_lt_ten_zpow.le)
      have hexp : (2 : ℚ) ^ (-1074 : ℤ) ≤ 2 ^ x.exponent :=
        zpow_le_zpow_right₀ (by norm_num) x.canonical.2.1
      have hedge : 1 / 2 * 2 ^ x.exponent ≤ x.lowerEdge := by
        have hm1 : (1 : ℚ) ≤ x.significand := by exact_mod_cast Nat.one_le_iff_ne_zero.2 hm
        refine le_trans ?_ (lowerEdge_bounds hm).1
        gcongr
        linarith
      refine lt_of_lt_of_le ?_ hedge
      refine lt_of_lt_of_le ?_ (mul_le_mul_of_nonneg_left hexp (by norm_num))
      rw [zpow_neg, zpow_neg, one_div, ← mul_inv]
      refine inv_strictAnti₀ (by positivity) ?_
      have : 2 * 2 ^ 1074 < 10 ^ 400 := by decide +kernel
      exact_mod_cast this
    have := (zpow_lt_zpow_iff_right₀ hone).1 hlow
    omega
  · -- no edge is above the range of the largest exponent
    have hhigh : (10 : ℚ) ^ d.lead < 10 ^ (400 : ℤ) := by
      refine ((ten_zpow_lead_le hd).trans_lt h.lt_two_zpow).trans_le ?_
      have hexp : (2 : ℚ) ^ (53 + x.exponent) ≤ 2 ^ (1024 : ℤ) :=
        zpow_le_zpow_right₀ (by norm_num) (by have := x.canonical.2.2.1; omega)
      refine hexp.trans ?_
      have : 2 ^ 1024 ≤ 10 ^ 400 := by decide +kernel
      exact_mod_cast this
    have := (zpow_lt_zpow_iff_right₀ hone).1 hhigh
    omega

/-- A decimal in the interval of a number is read as the number. -/
theorem toBinary64?_of_covers {d : Decimal} {x : Binary64} (hm : x.significand ≠ 0)
    (h : x.Covers d.toRat) : d.toBinary64? x.negative = some x := by
  have hd := coefficient_ne_zero_of_covers hm h
  obtain ⟨hlow, hhigh⟩ := lead_bounds hm h
  obtain ⟨hpos, hval⟩ := ratio_mul_zpow 10 d.coefficient (by decide) d.scale
  rw [toBinary64?, if_neg hd, if_neg (by omega), if_neg (by omega)]
  rw [toRat] at h
  push_cast at hval
  rw [← hval] at h
  split
  · next hs =>
    simp only [if_pos hs] at h
    exact ofRatio?_of_covers hm Nat.one_pos h
  · next hs =>
    simp only [if_neg hs] at h hpos
    exact ofRatio?_of_covers hm hpos h

/-- Whether a decimal is past the largest number is decided by its value. -/
theorem exceedsLargest_iff (d : Decimal) :
    d.exceedsLargest = true ↔ Binary64.largest.magnitude < d.toRat := by
  have hten : (10 : ℚ) ^ d.scale = 10 ^ d.scale.toNat / 10 ^ (-d.scale).toNat := by
    rw [← zpow_natCast, ← zpow_natCast, ← zpow_sub₀ (by norm_num : (10 : ℚ) ≠ 0)]
    congr 1
    omega
  have hlargest : Binary64.largest.magnitude = Binary64.largest.ratio.1 := by
    rw [← ratio_value, show Binary64.largest.ratio.2 = 1 from rfl, Nat.cast_one, div_one]
  rw [exceedsLargest, decide_eq_true_iff, hlargest, toRat, hten, mul_div_assoc',
    lt_div_iff₀ (by positivity)]
  norm_cast

/-- **Each decimal with the value of the shortest one is read as the number**: the shortest decimal
of the largest number is not past it. -/
theorem toBinary64Within?_eq_some {tie : TieRule} {d : Decimal} {x : Binary64}
    (hm : x.significand ≠ 0) (h : d.toRat = (shortest tie x).toRat) :
    d.toBinary64Within? x.negative = some x := by
  have hlargest : x.abs = .largest → d.exceedsLargest = false := by
    intro hx
    -- there are two such numbers, and two rules for ties: the shortest decimal is computed
    rw [← Bool.not_eq_true, exceedsLargest_iff, h, ← exceedsLargest_iff, Bool.not_eq_true]
    have hsign : x = .largest ∨ x = Binary64.largest.neg := by
      obtain ⟨negative, m, e, hc⟩ := x
      obtain ⟨-, rfl, rfl⟩ := Binary64.mk.inj hx
      cases negative
      · exact .inl rfl
      · exact .inr rfl
    rcases hsign with rfl | rfl <;> cases tie <;> decide +kernel
  have hcovers : x.Covers d.toRat := h ▸ covers_shortest tie hm
  rw [toBinary64Within?, toBinary64?_of_covers hm hcovers, Option.filter_some]
  rw [if_pos]
  by_cases hx : x.abs = .largest
  · simp [hlargest hx]
  · simp [hx]

end Decimal

end DocSelect
