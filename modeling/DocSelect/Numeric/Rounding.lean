/-!
# Rounding a ratio to a binary significand

A binary floating-point format keeps `precision` bits of significand and bounds the exponent.
This module rounds a ratio of natural numbers to such a format in exact arithmetic.

* `divHalfEven` is the quotient rounded to the nearest whole number, a half to the even one.
* `BinaryFormat.exponentFor` is the smallest exponent at which the ratio fits the precision.
* `BinaryFormat.round` is the significand and exponent nearest to the ratio.

Nothing here knows of the largest value: a result beyond it is recognised by its exponent.
-/

namespace DocSelect

/-- A binary floating-point format: values are `m * 2 ^ e` with `m < 2 ^ precision` and
`minExponent ≤ e ≤ maxExponent`. -/
structure BinaryFormat where
  /-- Bits of the significand. -/
  precision : Nat
  /-- The exponent of the subnormal values. -/
  minExponent : Int
  /-- The exponent of the largest values. -/
  maxExponent : Int
  deriving DecidableEq

namespace BinaryFormat

/-- The format of 64 bits. -/
def double : BinaryFormat := ⟨53, -1074, 971⟩

/-- The format of 32 bits. -/
def single : BinaryFormat := ⟨24, -149, 104⟩

end BinaryFormat

/-- The ratio `num / den` divided by `2 ^ e`, again as a ratio of natural numbers. -/
def scaleRatio (num den : Nat) (e : Int) : Nat × Nat :=
  if 0 ≤ e then (num, den * Nat.pow 2 e.toNat) else (num * Nat.pow 2 (-e).toNat, den)

/-- The whole number nearest to `num / den`; halfway between two, the even one. -/
def divHalfEven (num den : Nat) : Nat :=
  let q := num / den
  let r := num % den
  if 2 * r < den then q
  else if den < 2 * r then q + 1
  else if q % 2 = 0 then q else q + 1

/-- The whole number nearest to `num / den`; halfway between two, the larger one. -/
def divHalfUp (num den : Nat) : Nat :=
  (2 * num + den) / (2 * den)

@[simp] theorem divHalfEven_one (n : Nat) : divHalfEven n 1 = n := by
  simp [divHalfEven, Nat.mod_one]

@[simp] theorem divHalfEven_zero (d : Nat) : divHalfEven 0 d = 0 := by
  unfold divHalfEven
  rcases Nat.eq_zero_or_pos d with h | h <;> simp [h]

namespace BinaryFormat

/-- The smallest exponent, not below `minExponent`, at which `num / den` is less than
`2 ^ precision` units. The difference of the two bit lengths is that exponent or one less. -/
def exponentFor (f : BinaryFormat) (num den : Nat) : Int :=
  let guess : Int := (Nat.log2 num : Int) - Nat.log2 den - f.precision
  let scaled := scaleRatio num den guess
  let e := if scaled.1 < scaled.2 * Nat.pow 2 f.precision then guess else guess + 1
  max e f.minExponent

/-- The significand and exponent nearest to `num / den`, ties to the even significand. A
significand that rounds up to `2 ^ precision` is halved, so it always fits the precision. -/
def round (f : BinaryFormat) (num den : Nat) : Nat × Int :=
  if num = 0 then (0, f.minExponent)
  else
    let e := f.exponentFor num den
    let scaled := scaleRatio num den e
    let m := divHalfEven scaled.1 scaled.2
    if m = Nat.pow 2 f.precision then (Nat.pow 2 (f.precision - 1), e + 1) else (m, e)

@[simp] theorem round_zero (f : BinaryFormat) (d : Nat) : f.round 0 d = (0, f.minExponent) := by
  simp [round]

end BinaryFormat

end DocSelect
