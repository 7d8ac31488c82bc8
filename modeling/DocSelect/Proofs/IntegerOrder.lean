import DocSelect.Proofs.LiteralValue
import DocSelect.Sql.Compare
import Mathlib.Algebra.Order.Ring.Cast
import Mathlib.Order.Compare
/-!
# The order of bound integers

An integer in the signed range is bound as itself, one above it as the nearest binary number. The
engine compares the two kinds by exact value. Rounding does not turn an order around, and it does
not leave the range from the first integer that is rounded on, so the order of integers is kept;
only two integers that are both rounded can meet in one value.

* `SqlValue.Denotes` : the exact value of a number of the engine;
* `SqlValue.Denotes.order_eq` : **the engine orders numbers by their exact values**;
* `Binary64.Nearest.toRat_le` : nearest numbers are in the order of what they are nearest to;
* `Binary64.exists_near` : above the signed range there is a number at most 1024 away;
* `SqlValue.order_whole` : **binding integers keeps their order**.
-/

namespace DocSelect

namespace Binary64

/-! ## Exact values -/

/-- The value, as the ratio that numbers are compared by. -/
theorem signedRatio_value (x : Binary64) :
    0 < x.signedRatio.2 ∧ x.toRat * x.signedRatio.2 = x.signedRatio.1 := by
  obtain ⟨hpos, hvalue⟩ := ratio_mul_zpow 2 x.significand (by decide) x.exponent
  have hpos' : 0 < x.ratio.2 := hpos
  have hratio : x.magnitude * x.ratio.2 = x.ratio.1 := by
    refine ((div_eq_iff (Nat.cast_ne_zero.2 hpos'.ne')).1 ?_).symm
    exact_mod_cast hvalue
  refine ⟨hpos, ?_⟩
  rw [toRat, signedRatio]
  split
  · rw [neg_mul, hratio, Int.cast_neg, Int.cast_natCast]
  · exact hratio

/-- A number and a whole number are compared by exact value. -/
theorem compareInt_eq (x : Binary64) (n : ℤ) : x.compareInt n = cmp x.toRat n := by
  obtain ⟨hpos, hvalue⟩ := x.signedRatio_value
  have hpos' : (0 : ℚ) < x.signedRatio.2 := by exact_mod_cast hpos
  calc x.compareInt n
      = cmp (x.signedRatio.1 : ℚ) (n * x.signedRatio.2 : ℤ) := by
        rw [compareInt, ← cmp_eq_compare]
        exact (Int.cast_strictMono.cmp_map_eq _ _).symm
    _ = cmp (x.toRat * x.signedRatio.2) (n * x.signedRatio.2) := by
        rw [hvalue, Int.cast_mul, Int.cast_natCast]
    _ = cmp x.toRat n := cmp_mul_pos_right hpos' _ _

/-- Two numbers are compared by exact value. -/
theorem compareValue_eq (x y : Binary64) : x.compareValue y = cmp x.toRat y.toRat := by
  obtain ⟨hx, hxvalue⟩ := x.signedRatio_value
  obtain ⟨hy, hyvalue⟩ := y.signedRatio_value
  have hpos : (0 : ℚ) < x.signedRatio.2 * y.signedRatio.2 := by exact_mod_cast Nat.mul_pos hx hy
  calc x.compareValue y
      = cmp ((x.signedRatio.1 * y.signedRatio.2 : ℤ) : ℚ)
          (y.signedRatio.1 * x.signedRatio.2 : ℤ) := by
        rw [compareValue, ← cmp_eq_compare]
        exact (Int.cast_strictMono.cmp_map_eq _ _).symm
    _ = cmp (x.toRat * (x.signedRatio.2 * y.signedRatio.2))
          (y.toRat * (x.signedRatio.2 * y.signedRatio.2)) := by
        rw [Int.cast_mul, Int.cast_mul, Int.cast_natCast, Int.cast_natCast, ← hxvalue, ← hyvalue,
          mul_assoc, mul_assoc, mul_comm (y.signedRatio.2 : ℚ)]
    _ = cmp x.toRat y.toRat := cmp_mul_pos_right hpos _ _

/-! ## Nearest numbers in order -/

section

variable {x y : Binary64} {p q : ℚ}

/-- **Nearest numbers are in the order of what they are nearest to**: if they were the other way
round, one of the two values would lie beyond the middle between them. -/
theorem Nearest.toRat_le (hx : x.Nearest p) (hy : y.Nearest q) (h : p < q) :
    x.toRat ≤ y.toRat := by
  by_contra hlt
  rw [not_le] at hlt
  have hxy : (x.toRat - p) ^ 2 ≤ (y.toRat - p) ^ 2 := sq_le_sq.2 (hx y)
  have hyx : (y.toRat - q) ^ 2 ≤ (x.toRat - q) ^ 2 := sq_le_sq.2 (hy x)
  nlinarith

/-- A nearest number is not below the numbers that are not above the value. -/
theorem Nearest.le_toRat (hx : x.Nearest q) (hy : y.toRat ≤ q) : y.toRat ≤ x.toRat := by
  have hnear := (abs_le.1 ((hx y).trans_eq (abs_of_nonpos (sub_nonpos.2 hy)))).1
  linarith

end

theorem toRat_mk (significand : ℕ) (exponent : ℤ) (h : Canonical significand exponent) :
    toRat ⟨false, significand, exponent, h⟩ = significand * 2 ^ exponent := rfl

/-- The first integer that is not bound as itself is a binary number. -/
def firstRounded : Binary64 := ⟨false, 0x10000000000000, 11, by decide⟩

theorem toRat_firstRounded : firstRounded.toRat = 2 ^ 63 := by
  rw [firstRounded, toRat_mk]
  norm_num

/-- From there on there is a number at most 1024 away from each integer of 64 bits, for the numbers
are 2048 apart. -/
theorem exists_near {n : ℕ} (hlow : 2 ^ 63 ≤ n) (hhigh : n < 2 ^ 64) :
    ∃ y : Binary64, |y.toRat - n| ≤ 1024 := by
  obtain ⟨k, hk⟩ : ∃ k, k = (n + 1024) / 2048 := ⟨_, rfl⟩
  have hnear : |(k * 2048 - n : ℚ)| ≤ 1024 := by
    have hint : |(k * 2048 - n : ℤ)| ≤ 1024 := abs_le.2 ⟨by omega, by omega⟩
    exact_mod_cast hint
  by_cases hlast : k = 2 ^ 53
  · -- the power of two behind all of them
    refine ⟨⟨false, 0x10000000000000, 12, by decide⟩, ?_⟩
    rw [hlast] at hnear
    rw [toRat_mk]
    norm_num at hnear ⊢
    exact hnear
  · have hcanonical : Canonical k 11 := ⟨by omega, by decide, by decide, .inl (by omega)⟩
    refine ⟨⟨false, k, 11, hcanonical⟩, ?_⟩
    rw [toRat_mk]
    norm_num
    exact hnear

end Binary64

/-! ## The order of the engine -/

namespace SqlValue

/-- The number of the engine has this exact value. -/
inductive Denotes : SqlValue → ℚ → Prop
  /-- An integer. -/
  | integer (n : ℤ) : Denotes (.integer n) n
  /-- A finite binary number. -/
  | real (x : Binary64) : Denotes (.real (.finite x)) x.toRat

/-- **The engine orders numbers by their exact values.** -/
theorem Denotes.order_eq {a b : SqlValue} {p q : ℚ} (ha : a.Denotes p) (hb : b.Denotes q) :
    a.order b = cmp p q := by
  cases ha with
  | integer n =>
    cases hb with
    | integer m =>
      show compare n m = _
      rw [← cmp_eq_compare]
      exact (Int.cast_strictMono.cmp_map_eq _ _).symm
    | real y =>
      show (y.compareInt n).swap = _
      rw [y.compareInt_eq, cmp_swap]
  | real x =>
    cases hb with
    | integer m => exact x.compareInt_eq m
    | real y => exact x.compareValue_eq y

/-! ## Bound integers -/

/-- What an integer is bound as: itself in the signed range, and above it a nearest number that is
not below that range and at most 1024 away. -/
theorem ofWhole_cases (w : Whole) :
    (w.val < 2 ^ 63 ∧ ofWhole w = .integer w.val) ∨
      2 ^ 63 ≤ w.val ∧ ∃ x : Binary64, ofWhole w = .real (.finite x) ∧ x.Nearest w.val ∧
        2 ^ 63 ≤ x.toRat ∧ |x.toRat - w.val| ≤ 1024 := by
  by_cases h : w.val < 2 ^ 63
  · exact .inl ⟨h, if_pos (decide_eq_true h)⟩
  · obtain ⟨x, hx, hnearest⟩ := exists_ofWhole h
    refine .inr ⟨not_lt.1 h, x, hx, hnearest, ?_, ?_⟩
    · have hle : Binary64.firstRounded.toRat ≤ w.val := by
        rw [Binary64.toRat_firstRounded]
        exact_mod_cast not_lt.1 h
      rw [← Binary64.toRat_firstRounded]
      exact hnearest.le_toRat hle
    · obtain ⟨n, hn⟩ := Int.eq_ofNat_of_zero_le (show 0 ≤ w.val by omega)
      have hupper := w.upper
      obtain ⟨y, hy⟩ := Binary64.exists_near (show 2 ^ 63 ≤ n by omega) (by omega)
      rw [hn, Int.cast_natCast] at hnearest ⊢
      exact (hnearest y).trans hy

/-- The exact values of two bound integers are in the order of the integers, and they differ if the
smaller one is not rounded. -/
theorem exists_denotes_le {a b : Whole} (h : a.val < b.val) :
    ∃ p q, (ofWhole a).Denotes p ∧ (ofWhole b).Denotes q ∧ p ≤ q ∧ (a.val < 2 ^ 63 → p < q) := by
  have hcast : (a.val : ℚ) < b.val := by exact_mod_cast h
  rcases ofWhole_cases a with ⟨ha, hea⟩ | ⟨ha, x, hea, hx, -, -⟩
  · rcases ofWhole_cases b with ⟨-, heb⟩ | ⟨-, y, heb, -, hy, -⟩
    · rw [hea, heb]
      exact ⟨a.val, b.val, .integer a.val, .integer b.val, hcast.le, fun _ => hcast⟩
    · have hlt : (a.val : ℚ) < y.toRat := lt_of_lt_of_le (by exact_mod_cast ha) hy
      rw [hea, heb]
      exact ⟨a.val, y.toRat, .integer a.val, .real y, hlt.le, fun _ => hlt⟩
  · rcases ofWhole_cases b with ⟨hb, -⟩ | ⟨-, y, heb, hy, -, -⟩
    · omega
    · rw [hea, heb]
      exact ⟨x.toRat, y.toRat, .real x, .real y, hx.toRat_le hy hcast, fun hlt => by omega⟩

/-- **Binding integers keeps their order.** An integer below the end of the signed range is bound as
itself; the others are bound as binary numbers that do not fall below this end and are at most 1024
away. The engine puts what two integers are bound as in their order, and apart if the smaller one
is not rounded. So only integers that are both rounded can be bound to equal values. -/
theorem order_whole (a b : Whole) :
    (a.val < 2 ^ 63 → ofScalar (.number (.whole a)) = .integer a.val) ∧
      (2 ^ 63 ≤ a.val → ∃ x : Binary64, ofScalar (.number (.whole a)) = .real (.finite x) ∧
        2 ^ 63 ≤ x.toRat ∧ |x.toRat - a.val| ≤ 1024) ∧
      (a.val < b.val →
        (ofScalar (.number (.whole a))).order (ofScalar (.number (.whole b))) ≠ .gt ∧
          (a.val < 2 ^ 63 →
            (ofScalar (.number (.whole a))).order (ofScalar (.number (.whole b))) = .lt)) ∧
      (a ≠ b → (ofScalar (.number (.whole a))).order (ofScalar (.number (.whole b))) = .eq →
        2 ^ 63 ≤ a.val ∧ 2 ^ 63 ≤ b.val) := by
  have hbound (w : Whole) : ofScalar (.number (.whole w)) = ofWhole w := rfl
  simp only [hbound]
  refine ⟨fun ha => ?self, fun ha => ?rounded, fun h => ?order, fun hne heq => ?equal⟩
  case self =>
    rcases ofWhole_cases a with ⟨-, hea⟩ | ⟨ha', -⟩
    · exact hea
    · omega
  case rounded =>
    rcases ofWhole_cases a with ⟨ha', -⟩ | ⟨-, x, hea, -, hlow, hnear⟩
    · omega
    · exact ⟨x, hea, hlow, hnear⟩
  case order =>
    obtain ⟨p, q, hp, hq, hle, hlt⟩ := exists_denotes_le h
    rw [hp.order_eq hq]
    refine ⟨fun hgt => ?_, fun ha => (hlt ha).cmp_eq_lt⟩
    exact absurd ((cmp_eq_gt_iff p q).1 hgt) (not_lt.2 hle)
  case equal =>
    have hval : a.val ≠ b.val := fun h => hne (by cases a; cases b; congr)
    rcases lt_or_gt_of_ne hval with h | h
    · obtain ⟨p, q, hp, hq, -, hlt⟩ := exists_denotes_le h
      rw [hp.order_eq hq] at heq
      have hrounded : ¬ a.val < 2 ^ 63 := fun ha => (hlt ha).ne ((cmp_eq_eq_iff p q).1 heq)
      omega
    · obtain ⟨p, q, hp, hq, -, hlt⟩ := exists_denotes_le h
      rw [hq.order_eq hp] at heq
      have hrounded : ¬ b.val < 2 ^ 63 := fun hb => (hlt hb).ne' ((cmp_eq_eq_iff q p).1 heq)
      omega

/-- The integers around the end of the signed range are told apart, and the last two of the unsigned
range are bound to one value. -/
theorem order_whole_ends :
    ((ofScalar (.number (.whole ⟨0x7fffffffffffffff, by decide, by decide⟩))).order
        (ofScalar (.number (.whole ⟨0x8000000000000000, by decide, by decide⟩))) = .lt) ∧
      (∃ x : Binary64, ofScalar (.number (.whole ⟨0xffffffffffffffff, by decide, by decide⟩)) =
        .real (.finite x) ∧ 2 ^ 63 ≤ x.toRat ∧ |x.toRat - (0xffffffffffffffff : ℤ)| ≤ 1024) ∧
      (ofScalar (.number (.whole ⟨0xfffffffffffffffe, by decide, by decide⟩))).order
        (ofScalar (.number (.whole ⟨0xffffffffffffffff, by decide, by decide⟩))) = .eq ∧
      (2 : ℤ) ^ 63 ≤ 0xfffffffffffffffe := by
  have hends := order_whole ⟨0x7fffffffffffffff, by decide, by decide⟩
    ⟨0x8000000000000000, by decide, by decide⟩
  have htop := order_whole ⟨0xffffffffffffffff, by decide, by decide⟩
    ⟨0xffffffffffffffff, by decide, by decide⟩
  have hlast := order_whole ⟨0xfffffffffffffffe, by decide, by decide⟩
    ⟨0xffffffffffffffff, by decide, by decide⟩
  have hsame : (ofScalar (.number (.whole ⟨0xfffffffffffffffe, by decide, by decide⟩))).order
      (ofScalar (.number (.whole ⟨0xffffffffffffffff, by decide, by decide⟩))) = .eq := by
    decide +kernel
  refine ⟨(hends.2.2.1 (by decide)).2 (by decide), htop.2.1 (by decide), hsame, ?_⟩
  exact (hlast.2.2.2 (by decide) hsame).1

end SqlValue

end DocSelect
