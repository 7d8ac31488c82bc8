import DocSelect.Numeric.Layout
/-!
# Reading binary numbers from text

The text of a binary number, correctly rounded: digits with an optional sign, point and exponent,
or the name of an infinity or of the value that is no number.

* `FloatValue` is a finite number, an infinity or no number.
* `FloatValue.read?` reads a number of 64 bits, `FloatValue.readSingle?` one of 32 bits.
* `FloatValue.readWithin?` takes a text past the largest number for infinity.
* `readInt?` reads an integer.
-/

namespace DocSelect

/-- A value of a binary floating-point type. -/
inductive FloatValue
  /-- A finite number. -/
  | finite (x : Binary64)
  /-- Plus or minus infinity. -/
  | infinite (negative : Bool)
  /-- No number. -/
  | nan
  deriving DecidableEq

namespace FloatValue

/-- The finite number, if it is one. -/
def toFinite? : FloatValue → Option Binary64
  | .finite x => some x
  | _ => none

/-- The text without exponent. -/
def plainText : FloatValue → List Char
  | .finite x => x.plainText
  | .infinite false => ['i', 'n', 'f']
  | .infinite true => ['-', 'i', 'n', 'f']
  | .nan => ['N', 'a', 'N']

end FloatValue

/-- The number that digits spell. -/
def digitsValue (ds : List Char) : Nat := ds.foldl (fun acc c => acc * 10 + (c.toNat - 48)) 0

/-- An integer in decimal, with an optional sign. -/
def readInt? (s : List Char) : Option Int :=
  let (negative, ds) := match s with
    | '-' :: rest => (true, rest)
    | '+' :: rest => (false, rest)
    | _ => (false, s)
  if ds.isEmpty ∨ !ds.all Char.isDigit then none
  else some (if negative then -(digitsValue ds : Int) else digitsValue ds)

/-- A decimal without sign: digits, a point, digits, and an exponent. One of the two groups of
digits may be missing. -/
def readDecimal? (s : List Char) : Option Decimal :=
  let whole := s.takeWhile Char.isDigit
  let s := s.dropWhile Char.isDigit
  let (fraction, s) := match s with
    | '.' :: rest => (rest.takeWhile Char.isDigit, rest.dropWhile Char.isDigit)
    | _ => ([], s)
  if whole.isEmpty ∧ fraction.isEmpty then none
  else
    let d : Decimal := ⟨digitsValue (whole ++ fraction), -(fraction.length : Int)⟩
    match s with
    | [] => some d
    | c :: rest =>
      if c = 'e' ∨ c = 'E' then
        (readInt? rest).map fun e => ⟨d.coefficient, d.scale + e⟩
      else none

namespace FloatValue

/-- Reads a text, rounding a decimal by `round`. -/
def readWith? (round : Bool → Decimal → Option Binary64) (s : List Char) : Option FloatValue :=
  let (negative, body) := match s with
    | '-' :: rest => (true, rest)
    | '+' :: rest => (false, rest)
    | _ => (false, s)
  let name := body.map Char.toLower
  if name = ['n', 'a', 'n'] then some .nan
  else if name = ['i', 'n', 'f'] ∨ name = "infinity".toList then some (.infinite negative)
  else (readDecimal? body).map fun d =>
    match round negative d with
    | some x => .finite x
    | none => .infinite negative

/-- Reads a number of 64 bits. -/
def read? (s : List Char) : Option FloatValue := readWith? (fun neg d => d.toBinary64? neg) s

/-- Reads a number of 64 bits, which is infinite if its text is past the largest one. -/
def readWithin? (s : List Char) : Option FloatValue :=
  readWith? (fun neg d => d.toBinary64Within? neg) s

/-- Reads a number of 32 bits, which every number of 64 bits includes. -/
def readSingle? (s : List Char) : Option FloatValue :=
  readWith? (fun neg d => d.toBinary32? neg) s

end FloatValue

end DocSelect
