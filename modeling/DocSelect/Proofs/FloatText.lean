import DocSelect.Proofs.ShortestDecimal
/-!
# Binary numbers as text

The text of a binary number with a point and without exponent, and what reading makes of it.

* `Decimal.wholeDigits`, `Decimal.fractionDigits` : the digits around the point, neither side empty;
* `Decimal.readDecimal?_digits` : digits around a point are read as a decimal;
* `Decimal.toRat_digits` : that decimal has the value of the one that was written;
* `FloatValue.readWithin?_pointedText` : **the text of a binary number is read as the number**, both
  zeros included.
-/

namespace DocSelect

namespace Decimal

/-! ## The digits around the point -/

/-- The digits before the point. -/
def wholeDigits (d : Decimal) : List Char := d.positional.1

/-- The digits behind the point, a zero if there are none. -/
def fractionDigits (d : Decimal) : List Char :=
  if d.positional.2.isEmpty then ['0'] else d.positional.2

/-- A whole number has its zeros written, and one behind the point. -/
theorem digits_of_whole {d : Decimal} (h : 0 ≤ d.scale) :
    d.wholeDigits = natDigits d.coefficient ++ List.replicate d.scale.toNat '0' ∧
      d.fractionDigits = ['0'] := by
  simp [wholeDigits, fractionDigits, positional, h]

/-- The point stands between two digits. -/
theorem digits_of_inner {d : Decimal} (h : d.scale < 0)
    (hp : (-d.scale).toNat < (natDigits d.coefficient).length) :
    d.wholeDigits =
        (natDigits d.coefficient).take ((natDigits d.coefficient).length - (-d.scale).toNat) ∧
      d.fractionDigits =
        (natDigits d.coefficient).drop ((natDigits d.coefficient).length - (-d.scale).toNat) := by
  have hs : ¬ 0 ≤ d.scale := by omega
  simp only [wholeDigits, fractionDigits, positional, if_neg hs, if_pos hp, true_and]
  rw [if_neg]
  rw [List.isEmpty_iff_length_eq_zero, List.length_drop]
  omega

/-- All digits stand behind the point, with zeros before them. -/
theorem digits_of_small {d : Decimal} (h : d.scale < 0)
    (hp : (natDigits d.coefficient).length ≤ (-d.scale).toNat) :
    d.wholeDigits = ['0'] ∧
      d.fractionDigits =
        List.replicate ((-d.scale).toNat - (natDigits d.coefficient).length) '0' ++
          natDigits d.coefficient := by
  have hs : ¬ 0 ≤ d.scale := by omega
  have hp' : ¬ (-d.scale).toNat < (natDigits d.coefficient).length := by omega
  simp only [wholeDigits, fractionDigits, positional, if_neg hs, if_neg hp', true_and]
  rw [if_neg]
  simp

/-- Digits stand around the point, on both sides, and nothing else. -/
structure Pointed (whole fraction : List Char) : Prop where
  /-- Before the point stand digits. -/
  whole_all : whole.all Char.isDigit = true
  /-- Behind the point stand digits. -/
  fraction_all : fraction.all Char.isDigit = true
  /-- There is a digit before the point. -/
  whole_ne_nil : whole ≠ []
  /-- There is a digit behind the point. -/
  fraction_ne_nil : fraction ≠ []

theorem all_isDigit_replicate_zero (n : ℕ) :
    (List.replicate n '0').all Char.isDigit = true := by
  rw [List.all_eq_true]
  intro c hc
  rw [(List.mem_replicate.1 hc).2]
  decide

theorem pointed_digits (d : Decimal) : Pointed d.wholeDigits d.fractionDigits := by
  have hall := all_isDigit_natDigits d.coefficient
  -- the point stands behind all digits, between two of them, or before all of them
  have hlen := List.length_pos_iff.2 (natDigits_ne_nil d.coefficient)
  by_cases hs : 0 ≤ d.scale
  · obtain ⟨hw, hf⟩ := digits_of_whole hs
    rw [hw, hf]
    refine ⟨?_, by decide, by simp, by simp⟩
    rw [List.all_append, hall, all_isDigit_replicate_zero]
    rfl
  · by_cases hp : (-d.scale).toNat < (natDigits d.coefficient).length
    · obtain ⟨hw, hf⟩ := digits_of_inner (by omega) hp
      rw [hw, hf]
      rw [List.all_eq_true] at hall
      refine ⟨?_, ?_, ?_, ?_⟩
      · rw [List.all_eq_true]
        exact fun c hc => hall c (List.mem_of_mem_take hc)
      · rw [List.all_eq_true]
        exact fun c hc => hall c (List.mem_of_mem_drop hc)
      · rw [← List.length_pos_iff, List.length_take]
        omega
      · rw [← List.length_pos_iff, List.length_drop]
        omega
    · obtain ⟨hw, hf⟩ := digits_of_small (d := d) (by omega) (by omega)
      rw [hw, hf]
      refine ⟨by decide, ?_, by simp, by simp⟩
      rw [List.all_append, hall, all_isDigit_replicate_zero]
      rfl

/-- Without the point the digits spell the coefficient, and the point says where its last digit
stands; a whole number has a zero more. -/
theorem mk_digits (d : Decimal) :
    Decimal.mk (digitsValue (d.wholeDigits ++ d.fractionDigits)) (-(d.fractionDigits.length : ℤ)) =
      if 0 ≤ d.scale then ⟨d.coefficient * 10 ^ (d.scale.toNat + 1), -1⟩ else d := by
  have hzero : digitsValue ['0'] = 0 := by decide
  split
  · next hs =>
    obtain ⟨hw, hf⟩ := digits_of_whole hs
    simp only [hw, hf, digitsValue_append, digitsValue_natDigits, digitsValue_replicate_zero, hzero,
      List.length_replicate, List.length_singleton, Nat.add_zero, pow_succ, mul_assoc]
    rfl
  · next hs =>
    -- the last digit stands as many places behind the point as the scale says
    have hplaces : -(((-d.scale).toNat : ℕ) : ℤ) = d.scale := by omega
    by_cases hp : (-d.scale).toNat < (natDigits d.coefficient).length
    · obtain ⟨hw, hf⟩ := digits_of_inner (by omega) hp
      have hlen : d.fractionDigits.length = (-d.scale).toNat := by
        rw [hf, List.length_drop]
        omega
      rw [hlen, hplaces, hw, hf, List.take_append_drop, digitsValue_natDigits]
    · obtain ⟨hw, hf⟩ := digits_of_small (d := d) (by omega) (by omega)
      have hlen : d.fractionDigits.length = (-d.scale).toNat := by
        rw [hf, List.length_append, List.length_replicate]
        omega
      rw [hlen, hplaces, hw, hf, digitsValue_append, digitsValue_append, hzero,
        digitsValue_replicate_zero, digitsValue_natDigits, Nat.zero_mul, Nat.zero_mul, Nat.zero_add,
        Nat.zero_add]

/-- The zeros of a whole number, and the one behind its point, do not change the value. -/
theorem toRat_zeros {d : Decimal} (hs : 0 ≤ d.scale) :
    (Decimal.mk (d.coefficient * 10 ^ (d.scale.toNat + 1)) (-1)).toRat = d.toRat := by
  obtain ⟨k, hk⟩ := Int.eq_ofNat_of_zero_le hs
  simp only [toRat, hk, Int.toNat_natCast, zpow_neg_one, zpow_natCast]
  push_cast
  ring

/-- **Without the point the digits spell the coefficient in units of the last place.** -/
theorem toRat_digits (d : Decimal) :
    (Decimal.mk (digitsValue (d.wholeDigits ++ d.fractionDigits))
      (-(d.fractionDigits.length : ℤ))).toRat = d.toRat := by
  rw [d.mk_digits]
  split
  · next hs => exact toRat_zeros hs
  · rfl

/-! ## Reading -/

/-- Digits around a point are read as a decimal. -/
theorem Pointed.readDecimal? {whole fraction : List Char} (h : Pointed whole fraction) :
    DocSelect.readDecimal? (whole ++ '.' :: fraction) =
      some ⟨digitsValue (whole ++ fraction), -(fraction.length : ℤ)⟩ := by
  have hdot : ∀ c ∈ ('.' :: fraction).head?, c.isDigit = false := by
    simp
  obtain ⟨htake, hdrop⟩ := takeWhile_dropWhile_append h.whole_all hdot
  -- the digits behind the point go to the end of the text
  have hend : ∀ c ∈ ([] : List Char).head?, c.isDigit = false := by
    simp
  obtain ⟨htake', hdrop'⟩ := takeWhile_dropWhile_append h.fraction_all hend
  rw [List.append_nil] at htake' hdrop'
  unfold DocSelect.readDecimal?
  simp only [htake, hdrop, htake', hdrop', List.isEmpty_iff, h.whole_ne_nil, false_and, if_false]

end Decimal

theorem toLower_of_isDigit {c : Char} (h : c.isDigit = true) : c.toLower = c := by
  unfold Char.toLower
  rw [dif_neg]
  simp only [Char.isDigit, Bool.and_eq_true, decide_eq_true_iff] at h
  intro h'
  exact absurd (UInt32.le_trans h'.1 h.2) (by decide)

namespace FloatValue

/-- A text that starts with a digit is neither a name nor signed. -/
theorem readWith?_of_isDigit {round : Bool → Decimal → Option Binary64} {c : Char} {s : List Char}
    {d : Decimal} {x : Binary64} (hc : c.isDigit = true) (hd : readDecimal? (c :: s) = some d)
    (negative : Bool) (hx : round negative d = some x) :
    readWith? round ((if negative then ['-'] else []) ++ c :: s) = some (.finite x) := by
  have hne (e : Char) (he : e.isDigit = false) : c ≠ e := ne_of_class hc e he
  have hlow := toLower_of_isDigit hc
  cases negative
  · simp [readWith?, hne '-' (by decide), hne '+' (by decide), hlow, hne 'n' (by decide),
      hne 'i' (by decide), hd, hx]
  · simp [readWith?, hlow, hne 'n' (by decide), hne 'i' (by decide), hd, hx]

end FloatValue

namespace Binary64

/-- The digits of the magnitude before the point. -/
def wholeDigits (x : Binary64) : List Char := (Decimal.shortest .up x).wholeDigits

/-- The digits of the magnitude behind the point. -/
def fractionDigits (x : Binary64) : List Char := (Decimal.shortest .up x).fractionDigits

theorem pointed_digits (x : Binary64) : Decimal.Pointed x.wholeDigits x.fractionDigits :=
  Decimal.pointed_digits _

theorem pointedText_eq (x : Binary64) :
    x.pointedText = x.signText ++ (x.wholeDigits ++ '.' :: x.fractionDigits) := by
  simp [pointedText, wholeDigits, fractionDigits, Decimal.wholeDigits, Decimal.fractionDigits]

theorem eq_zero_of_significand_eq_zero {x : Binary64} (h : x.significand = 0) :
    x = zero x.negative := by
  obtain ⟨negative, m, e, hc⟩ := x
  obtain rfl : m = 0 := h
  obtain rfl : e = -1074 := by
    have := hc.2.2.2
    omega
  rfl

/-- The decimal around the point is read as the number. -/
theorem toBinary64Within?_digits (x : Binary64) :
    (Decimal.mk (digitsValue (x.wholeDigits ++ x.fractionDigits))
      (-(x.fractionDigits.length : ℤ))).toBinary64Within? x.negative = some x := by
  have hval := (Decimal.shortest .up x).toRat_digits
  by_cases hm : x.significand = 0
  · -- no interval is around zero: it is read by itself, with its sign
    rw [eq_zero_of_significand_eq_zero hm]
    cases x.negative <;> decide
  · exact Decimal.toBinary64Within?_eq_some hm hval

/-- **The text of a number is read as the number**, zeros with their sign. -/
theorem readWithin?_pointedText (x : Binary64) :
    FloatValue.readWithin? x.pointedText = some (.finite x) := by
  obtain ⟨c, s, hcs, hc, -⟩ :=
    exists_eq_cons_of_all x.pointed_digits.whole_ne_nil x.pointed_digits.whole_all
  have hread := x.pointed_digits.readDecimal?
  rw [pointedText_eq, signText]
  rw [hcs, List.cons_append] at hread ⊢
  refine FloatValue.readWith?_of_isDigit hc hread x.negative ?_
  have h := x.toBinary64Within?_digits
  rwa [hcs] at h

end Binary64

end DocSelect
