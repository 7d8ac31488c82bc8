import DocSelect.Numeric.Decimal
/-!
# Layouts of numbers as text

The same decimal digits are written in three ways.

* `plainText` never has an exponent: all zeros are written, and a whole number has no point.
* `pointedText` is `plainText` with `.0` after a whole number.
* `jsonText` has a point or an exponent always: positional while the first digit stands between
  `10 ^ -5` and `10 ^ 15`, otherwise one digit before the point and an exponent with its sign.
* `fifteenDigitText` rounds to fifteen digits: positional while the first digit stands between
  `10 ^ -4` and `10 ^ 14`, otherwise with an exponent of at least two digits.
-/

namespace DocSelect

/-- A whole number in decimal, with a minus sign below zero. -/
def intText (n : Int) : List Char :=
  if n < 0 then '-' :: natDigits n.natAbs else natDigits n.natAbs

namespace Decimal

/-- The digits before the point and those after it, for positional writing. -/
def positional (d : Decimal) : List Char × List Char :=
  let ds := natDigits d.coefficient
  if 0 ≤ d.scale then (ds ++ List.replicate d.scale.toNat '0', [])
  else
    let places := (-d.scale).toNat
    if places < ds.length then (ds.take (ds.length - places), ds.drop (ds.length - places))
    else (['0'], List.replicate (places - ds.length) '0' ++ ds)

/-- The first digit, and the others. -/
def scientific (d : Decimal) : Char × List Char :=
  match natDigits d.coefficient with
  | [] => ('0', [])
  | c :: rest => (c, rest)

end Decimal

namespace Binary64

/-- A minus sign for a negative number, negative zero included. -/
def signText (x : Binary64) : List Char := if x.negative then ['-'] else []

/-- Without exponent; a whole number without point. -/
def plainText (x : Binary64) : List Char :=
  let p := (Decimal.shortest .up x).positional
  x.signText ++ p.1 ++ (if p.2.isEmpty then [] else '.' :: p.2)

/-- Without exponent; always with a point and a digit after it. -/
def pointedText (x : Binary64) : List Char :=
  let p := (Decimal.shortest .up x).positional
  x.signText ++ p.1 ++ '.' :: (if p.2.isEmpty then ['0'] else p.2)

/-- A number with a point or an exponent, as JSON text writes it. -/
def jsonText (x : Binary64) : List Char :=
  let d := Decimal.shortest .toEven x
  if x.isZero then x.signText ++ ['0', '.', '0']
  else if -5 ≤ d.lead ∧ d.lead ≤ 15 then
    let p := d.positional
    x.signText ++ p.1 ++ '.' :: (if p.2.isEmpty then ['0'] else p.2)
  else
    let s := d.scientific
    x.signText ++ s.1 :: (if s.2.isEmpty then [] else '.' :: s.2) ++
      'e' :: (if d.lead < 0 then '-' else '+') :: natDigits d.lead.natAbs

/-- At least two digits of an exponent. -/
def exponentDigits (n : Nat) : List Char :=
  if n < 10 then '0' :: natDigits n else natDigits n

/-- Fifteen significant digits, trailing zeros removed but one after the point; zero has no
sign. -/
def fifteenDigitText (x : Binary64) : List Char :=
  let d := Decimal.ofDigits 15 x
  if x.isZero then ['0', '.', '0']
  else if -4 ≤ d.lead ∧ d.lead ≤ 14 then
    let p := d.positional
    x.signText ++ p.1 ++ '.' :: (if p.2.isEmpty then ['0'] else p.2)
  else
    let s := d.scientific
    x.signText ++ s.1 :: '.' :: (if s.2.isEmpty then ['0'] else s.2) ++
      'e' :: (if d.lead < 0 then '-' else '+') :: exponentDigits d.lead.natAbs

end Binary64

end DocSelect
