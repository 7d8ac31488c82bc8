import DocSelect.Numeric.FloatText
import Mathlib.Algebra.Group.Nat.Defs
/-!
# Decimal digits and the numbers they spell

What is written in decimal reads back.

* `digitsValue_natDigits` : the digits of a whole number spell it;
* `intText_eq` : the text of an integer is its sign and its digits;
* `takeWhile_dropWhile_append` : a run of digits is told from what follows it.
-/

namespace DocSelect

/-- A character of a class is no character outside of it. -/
theorem ne_of_class {p : Char → Bool} {c : Char} (hc : p c = true) (e : Char) (he : p e = false) :
    c ≠ e := by
  rintro rfl
  exact Bool.false_ne_true (he.symm.trans hc)

/-- A run of characters of a class ends where the class ends. -/
theorem takeWhile_dropWhile_append {p : Char → Bool} {w rest : List Char}
    (hw : w.all p = true) (hr : ∀ c ∈ rest.head?, p c = false) :
    (w ++ rest).takeWhile p = w ∧ (w ++ rest).dropWhile p = rest := by
  rw [List.all_eq_true] at hw
  have hrest : rest.takeWhile p = [] := by
    cases rest with
    | nil => rfl
    | cons c s => simp [hr c (by simp)]
  have htake : (w ++ rest).takeWhile p = w := by
    rw [List.takeWhile_append_of_pos hw, hrest, List.append_nil]
  have h := List.takeWhile_append_dropWhile (p := p) (l := w ++ rest)
  rw [htake] at h
  exact ⟨htake, List.append_cancel_left h⟩

/-- The first of some characters of a class, and the others. -/
theorem exists_eq_cons_of_all {p : Char → Bool} {s : List Char} (hne : s ≠ [])
    (hs : s.all p = true) : ∃ c t, s = c :: t ∧ p c = true ∧ t.all p = true := by
  obtain ⟨c, t, rfl⟩ := List.exists_cons_of_ne_nil hne
  rw [List.all_cons, Bool.and_eq_true] at hs
  exact ⟨c, t, rfl, hs.1, hs.2⟩

/-! ## Digits of whole numbers -/

theorem digitsValue_eq_ofDigitChars (ds : List Char) :
    digitsValue ds = Nat.ofDigitChars 10 ds 0 := by
  simp [digitsValue, Nat.ofDigitChars_eq_foldl, Nat.mul_comm]

/-- The digits of a whole number spell it. -/
@[simp] theorem digitsValue_natDigits (n : Nat) : digitsValue (natDigits n) = n := by
  rw [digitsValue_eq_ofDigitChars]
  exact Nat.ofDigitChars_ten_toDigits

/-- Digits behind other digits shift these by their number. -/
theorem digitsValue_append (ds es : List Char) :
    digitsValue (ds ++ es) = digitsValue ds * 10 ^ es.length + digitsValue es := by
  simp only [digitsValue_eq_ofDigitChars, Nat.ofDigitChars_append]
  rw [Nat.ofDigitChars_eq_ofDigitChars_zero, Nat.mul_comm]

@[simp] theorem digitsValue_replicate_zero (n : Nat) :
    digitsValue (List.replicate n '0') = 0 := by
  simp [digitsValue_eq_ofDigitChars]

/-- A whole number is written in decimal digits alone. -/
theorem isDigit_of_mem_natDigits {n : Nat} {c : Char} (h : c ∈ natDigits n) :
    c.isDigit = true :=
  Nat.isDigit_of_mem_toDigits (by decide) (by decide) h

@[simp] theorem natDigits_ne_nil (n : Nat) : natDigits n ≠ [] := Nat.toDigits_ne_nil

@[simp] theorem all_isDigit_natDigits (n : Nat) : (natDigits n).all Char.isDigit = true := by
  simpa using fun c h => isDigit_of_mem_natDigits h

/-- A whole number has a first digit. -/
theorem natDigits_eq_cons (n : Nat) :
    ∃ c ds, natDigits n = c :: ds ∧ c.isDigit = true ∧ ds.all Char.isDigit = true :=
  exists_eq_cons_of_all (natDigits_ne_nil n) (all_isDigit_natDigits n)

/-! ## Integers -/

/-- The text of an integer is its sign and its digits. -/
theorem intText_eq (n : Int) :
    intText n = (if decide (n < 0) then ['-'] else []) ++ natDigits n.natAbs := by
  unfold intText
  by_cases h : n < 0 <;> simp [h]

theorem readInt?_natDigits (n : Nat) : readInt? (natDigits n) = some (n : Int) := by
  obtain ⟨c, ds, h, hc, -⟩ := natDigits_eq_cons n
  have hm : c ≠ '-' := ne_of_class hc '-' (by decide)
  have hp : c ≠ '+' := ne_of_class hc '+' (by decide)
  have hv : digitsValue (c :: ds) = n := by rw [← h, digitsValue_natDigits]
  have ha : (c :: ds).all Char.isDigit = true := by rw [← h, all_isDigit_natDigits]
  rw [h]
  simp [readInt?, hm, hp, hv, ha]

theorem readInt?_neg_natDigits (n : Nat) :
    readInt? ('-' :: natDigits n) = some (-(n : Int)) := by
  simp [readInt?]

end DocSelect
