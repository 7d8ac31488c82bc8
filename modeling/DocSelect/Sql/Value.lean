import DocSelect.Scalar
import DocSelect.Text.Utf8
/-!
# Values of the SQL engine

The engine computes with null, integers of 64 bits, binary numbers, text and blobs. Text is a
sequence of bytes.

* `Extended` adds the two infinities to the finite binary numbers.
* `SqlValue.ofScalar` is the value bound for a scalar: a truth value is one or zero, a whole number
  beyond the signed range is the nearest binary number.
-/

namespace DocSelect

/-- A finite binary number or an infinity. -/
inductive Extended
  /-- A finite number. -/
  | finite (x : Binary64)
  /-- Plus or minus infinity. -/
  | infinite (negative : Bool)
  deriving DecidableEq

namespace Extended

/-- The value of a rounding that has no finite result. -/
def ofOption (negative : Bool) : Option Binary64 → Extended
  | some x => .finite x
  | none => .infinite negative

/-- The opposite value. -/
def neg : Extended → Extended
  | .finite x => .finite x.neg
  | .infinite n => .infinite (!n)

/-- The text without exponent, and of the infinities. -/
def plainText : Extended → List Char
  | .finite x => x.plainText
  | .infinite false => ['i', 'n', 'f']
  | .infinite true => ['-', 'i', 'n', 'f']

/-- The text of fifteen digits, and of the infinities. -/
def fifteenDigitText : Extended → List Char
  | .finite x => x.fifteenDigitText
  | .infinite false => ['I', 'n', 'f']
  | .infinite true => ['-', 'I', 'n', 'f']

/-- The order of a value and a whole number. -/
def compareInt : Extended → Int → Ordering
  | .finite x, n => x.compareInt n
  | .infinite negative, _ => if negative then .lt else .gt

/-- The order of two values. -/
def compareValue : Extended → Extended → Ordering
  | .finite x, .finite y => x.compareValue y
  | .infinite n, .infinite m => if n = m then .eq else if n then .lt else .gt
  | .infinite n, .finite _ => if n then .lt else .gt
  | .finite _, .infinite m => if m then .gt else .lt

end Extended

/-- A value of the SQL engine. -/
inductive SqlValue
  /-- No value. -/
  | null
  /-- An integer of 64 bits. -/
  | integer (n : Int)
  /-- A binary number. -/
  | real (x : Extended)
  /-- Text, as bytes. -/
  | text (bytes : List UInt8)
  /-- Bytes that are no text. -/
  | blob (bytes : List UInt8)
  deriving DecidableEq

namespace SqlValue

instance : Inhabited SqlValue := ⟨.null⟩

/-- The text value of a string. -/
def ofString (s : String) : SqlValue := .text (utf8Bytes s.toList)

/-- The value of a truth value. -/
def ofBool (b : Bool) : SqlValue := .integer (if b then 1 else 0)

/-- The value of a whole number: an integer in the signed range, otherwise the nearest binary
number. -/
def ofWhole (w : Whole) : SqlValue :=
  if w.isSigned then .integer w.val
  else .real (.ofOption false (Binary64.ofNat? w.val.toNat))

/-- The value of a number. -/
def ofNumber : Number → SqlValue
  | .whole w => ofWhole w
  | .float x => .real (.finite x)

/-- The value that stands for a scalar. -/
def ofScalar : Scalar → SqlValue
  | .bool b => ofBool b
  | .number n => ofNumber n
  | .string s => ofString s

end SqlValue

end DocSelect
