import DocSelect.Numeric.Binary64
/-!
# Decimal digits of binary numbers

A `Decimal` is a whole number of units `10 ^ scale`. This module finds the decimals that stand
for a binary number, and the binary number nearest to a decimal, in exact arithmetic.

* `Decimal.shortest` is the decimal of the fewest digits that rounds back to the number; among
  those the nearest one. Halfway between two, the `TieRule` of the format decides.
* `Decimal.ofDigits` has a fixed count of significant digits, a half rounded up.
* `Decimal.toBinary64?` is the binary number nearest to a decimal.
-/

namespace DocSelect

/-- A whole number of units `10 ^ scale`. -/
structure Decimal where
  /-- The digits, as a whole number. -/
  coefficient : Nat
  /-- The exponent of the unit. -/
  scale : Int
  deriving DecidableEq

/-- Which of two equally near decimals stands for a number. -/
inductive TieRule
  /-- The one whose last digit is even. -/
  | toEven
  /-- The larger one. -/
  | up
  deriving DecidableEq

/-- The decimal digits of a whole number, most significant first; zero has one digit. -/
def natDigits (n : Nat) : List Char := Nat.toDigits 10 n

/-- The number of decimal digits. -/
def digitCount (n : Nat) : Nat := (natDigits n).length

namespace Decimal

/-- The ratio `num / den` in units of `10 ^ scale`. -/
def scaled (num den : Nat) (scale : Int) : Nat × Nat :=
  if 0 ≤ scale then (num, den * Nat.pow 10 scale.toNat) else (num * Nat.pow 10 (-scale).toNat, den)

/-- The decimal exponent of the first digit of a positive ratio: the largest `k` with
`10 ^ k ≤ num / den`. The difference of the two digit counts is `k` or one more. -/
def leadingExponent (num den : Nat) : Int :=
  let guess : Int := (digitCount num : Int) - digitCount den
  let s := scaled num den guess
  if s.2 ≤ s.1 then guess else guess - 1

/-- Without trailing zeros of the coefficient, which move into the scale. The fuel is a bound on
their count. -/
def trim : Nat → Nat → Int → Decimal
  | 0, c, s => ⟨c, s⟩
  | fuel + 1, c, s => if c ≠ 0 ∧ c % 10 = 0 then trim fuel (c / 10) (s + 1) else ⟨c, s⟩

/-- The same value with the shortest coefficient; zero is `0 * 10 ^ 0`. -/
def normalize (d : Decimal) : Decimal :=
  if d.coefficient = 0 then ⟨0, 0⟩ else trim (digitCount d.coefficient) d.coefficient d.scale

/-- The reals that round to a binary number, as bounds in quarter units of its significand. -/
structure Interval where
  /-- Lower bound, in quarters of the unit. -/
  low : Nat
  /-- Upper bound, in quarters of the unit. -/
  high : Nat
  /-- Whether the bounds themselves round to the number. -/
  closed : Bool

/-- Half a unit to each side; only a quarter below a power of two, where the units below are half
as large. The bounds belong to the numbers with an even significand. -/
def roundingInterval (x : Binary64) : Interval where
  low := 4 * x.significand -
    (if x.significand = 0x10000000000000 ∧ x.exponent ≠ -1074 then 1 else 2)
  high := 4 * x.significand + 2
  closed := x.significand % 2 == 0

/-- Whether `c` units of `10 ^ scale` lie in the rounding interval of `x`. -/
def readsBack (x : Binary64) (c : Nat) (scale : Int) : Bool :=
  let i := roundingInterval x
  -- both sides in units of a quarter of the binary unit times a power of ten
  let unit :=
    if 0 ≤ x.exponent then (Nat.pow 2 x.exponent.toNat, 1) else (1, Nat.pow 2 (-x.exponent).toNat)
  let s := if 0 ≤ scale then (c * Nat.pow 10 scale.toNat, 1) else (c, Nat.pow 10 (-scale).toNat)
  let mid := 4 * s.1 * unit.2
  let lo := i.low * unit.1 * s.2
  let hi := i.high * unit.1 * s.2
  if i.closed then lo ≤ mid && mid ≤ hi else lo < mid && mid < hi

/-- The decimal of one grid that reads back, if there is one: of the two neighbours of the value
on the grid, the nearer one that reads back. -/
def onGrid? (tie : TieRule) (x : Binary64) (scale : Int) : Option Nat :=
  let v := scaled x.ratio.1 x.ratio.2 scale
  let c := v.1 / v.2
  let r := v.1 % v.2
  if r = 0 then some c
  else
    match readsBack x c scale, readsBack x (c + 1) scale with
    | false, false => none
    | true, false => some c
    | false, true => some (c + 1)
    | true, true =>
      if 2 * r < v.2 then some c
      else if v.2 < 2 * r then some (c + 1)
      else match tie with
        | .toEven => some (if c % 2 = 0 then c else c + 1)
        | .up => some (c + 1)

/-- The first grid with a decimal that reads back, starting from `digits` significant digits. -/
def firstGrid (tie : TieRule) (x : Binary64) (lead : Int) : Nat → Nat → Decimal
  | 0, digits =>
    let s := lead - digits + 1
    let v := scaled x.ratio.1 x.ratio.2 s
    ⟨v.1 / v.2, s⟩
  | fuel + 1, digits =>
    let s := lead - digits + 1
    match onGrid? tie x s with
    | some c => ⟨c, s⟩
    | none => firstGrid tie x lead fuel (digits + 1)

/-- The magnitude in the fewest digits that read back, and of those nearest to it. Seventeen
digits always suffice. -/
def shortest (tie : TieRule) (x : Binary64) : Decimal :=
  if x.isZero then ⟨0, 0⟩
  else (firstGrid tie x (leadingExponent x.ratio.1 x.ratio.2) 17 1).normalize

/-- The magnitude rounded to `digits` significant digits, a half up. -/
def ofDigits (digits : Nat) (x : Binary64) : Decimal :=
  if x.isZero then ⟨0, 0⟩
  else
    let s := leadingExponent x.ratio.1 x.ratio.2 - digits + 1
    let v := scaled x.ratio.1 x.ratio.2 s
    (Decimal.mk (divHalfUp v.1 v.2) s).normalize

/-- The decimal exponent of the first digit. -/
def lead (d : Decimal) : Int := d.scale + digitCount d.coefficient - 1

/-- The number nearest to the decimal in a binary format, as an exact ratio. -/
def roundTo (f : BinaryFormat) (d : Decimal) : Nat × Int :=
  if 0 ≤ d.scale then f.round (d.coefficient * Nat.pow 10 d.scale.toNat) 1
  else f.round d.coefficient (Nat.pow 10 (-d.scale).toNat)

/-- The binary number nearest to the decimal; none past the largest. Decimals far outside the
range of the format need no powers of ten. -/
def toBinary64? (negative : Bool) (d : Decimal) : Option Binary64 :=
  if d.coefficient = 0 then some (.zero negative)
  else if d.lead < -400 then some (.zero negative)
  else if 400 < d.lead then none
  else if 0 ≤ d.scale then Binary64.ofRatio? negative (d.coefficient * Nat.pow 10 d.scale.toNat) 1
  else Binary64.ofRatio? negative d.coefficient (Nat.pow 10 (-d.scale).toNat)

/-- Whether the magnitude is past the largest binary number. -/
def exceedsLargest (d : Decimal) : Bool :=
  Binary64.largest.ratio.1 * Nat.pow 10 (-d.scale).toNat < d.coefficient * Nat.pow 10 d.scale.toNat

/-- The binary number nearest to the decimal; none for a decimal past the largest, even if that is
the nearest one. -/
def toBinary64Within? (negative : Bool) (d : Decimal) : Option Binary64 :=
  (d.toBinary64? negative).filter fun x => !(x.abs = .largest && d.exceedsLargest)

/-- The number of the 32-bit format nearest to the decimal, as a number of 64 bits; none past the
largest of that format. -/
def toBinary32? (negative : Bool) (d : Decimal) : Option Binary64 :=
  if d.coefficient = 0 then some (.zero negative)
  else if d.lead < -400 then some (.zero negative)
  else if 400 < d.lead then none
  else
    let r := d.roundTo .single
    if BinaryFormat.single.maxExponent < r.2 then none
    else
      let v := scaleRatio r.1 1 (-r.2)
      Binary64.ofRatio? negative v.1 v.2

end Decimal

end DocSelect
