import DocSelect.Numeric.Rounding
/-!
# Finite binary numbers of 64 bits

`Binary64` holds the finite values of the 64-bit binary format, each in its one canonical
form, so that equal fields mean equal values (the two zeros apart, which differ in sign).

* `Binary64.ofRatio?` rounds a ratio to the nearest value; none if it lies past the largest.
* `Binary64.times?` and `Binary64.over?` multiply and divide with one rounding each.
* `Binary64.ofNat?` and `Binary64.powerOfTen?` are the nearest values of whole numbers.
* `Binary64.compareInt` and `Binary64.compareValue` compare by exact value.
-/

namespace DocSelect

/-- The canonical pairs: a full significand, or any significand at the smallest exponent. -/
def Binary64.Canonical (significand : Nat) (exponent : Int) : Prop :=
  significand < 0x20000000000000 ∧ -1074 ≤ exponent ∧ exponent ≤ 971 ∧
    (0x10000000000000 ≤ significand ∨ exponent = -1074)

instance (m : Nat) (e : Int) : Decidable (Binary64.Canonical m e) := by
  unfold Binary64.Canonical; infer_instance

/-- A finite number of the 64-bit binary format: `± significand * 2 ^ exponent`. -/
structure Binary64 where
  /-- The sign bit; zero has one too. -/
  negative : Bool
  /-- The significand, as a whole number. -/
  significand : Nat
  /-- The exponent of the unit of the significand. -/
  exponent : Int
  /-- The pair is the canonical one. -/
  canonical : Binary64.Canonical significand exponent
  deriving DecidableEq

namespace Binary64

/-- Zero, with the given sign. -/
def zero (negative : Bool) : Binary64 := ⟨negative, 0, -1074, by decide⟩

instance : Inhabited Binary64 := ⟨zero false⟩

/-- The largest number. -/
def largest : Binary64 := ⟨false, 0x1FFFFFFFFFFFFF, 971, by decide⟩

/-- The zeros are the values without significand. -/
def isZero (x : Binary64) : Bool := x.significand == 0

/-- The value with the opposite sign. -/
def neg (x : Binary64) : Binary64 := { x with negative := !x.negative }

@[simp] theorem neg_neg (x : Binary64) : x.neg.neg = x := by simp [neg]

/-- The value with its sign removed. -/
def abs (x : Binary64) : Binary64 := { x with negative := false }

/-- The magnitude as a ratio of whole numbers. -/
def ratio (x : Binary64) : Nat × Nat :=
  if 0 ≤ x.exponent then (x.significand * Nat.pow 2 x.exponent.toNat, 1)
  else (x.significand, Nat.pow 2 (-x.exponent).toNat)

/-- The value nearest to `num / den`, ties to even; none past the largest finite value. -/
def ofRatio? (negative : Bool) (num den : Nat) : Option Binary64 :=
  let r := BinaryFormat.double.round num den
  if h : Canonical r.1 r.2 then some ⟨negative, r.1, r.2, h⟩ else none

/-- The value nearest to a whole number. -/
def ofNat? (n : Nat) : Option Binary64 := ofRatio? false n 1

/-- The value nearest to a power of ten. -/
def powerOfTen? (k : Nat) : Option Binary64 := ofNat? (Nat.pow 10 k)

/-- The product, rounded once. -/
def times? (x y : Binary64) : Option Binary64 :=
  let a := x.ratio
  let b := y.ratio
  ofRatio? (x.negative != y.negative) (a.1 * b.1) (a.2 * b.2)

/-- The quotient by a number other than zero, rounded once. -/
def over? (x y : Binary64) : Option Binary64 :=
  let a := x.ratio
  let b := y.ratio
  ofRatio? (x.negative != y.negative) (a.1 * b.2) (a.2 * b.1)

/-- The value as a signed numerator over a positive denominator. -/
def signedRatio (x : Binary64) : Int × Nat :=
  (if x.negative then -(x.ratio.1 : Int) else x.ratio.1, x.ratio.2)

/-- The order of a value and a whole number, by exact value. -/
def compareInt (x : Binary64) (n : Int) : Ordering :=
  compare x.signedRatio.1 (n * x.signedRatio.2)

/-- The order of two values, by exact value: the two zeros are equal. -/
def compareValue (x y : Binary64) : Ordering :=
  compare (x.signedRatio.1 * y.signedRatio.2) (y.signedRatio.1 * x.signedRatio.2)

end Binary64

end DocSelect
