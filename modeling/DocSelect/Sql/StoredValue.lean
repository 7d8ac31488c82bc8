import DocSelect.Sql.Value
import DocSelect.Stored.Binary
/-!
# Values of parts of stored documents

A part of a stored document has a value and a type. Constants, numbers and strings are such values;
arrays and objects are their text. Numbers in binary form are spelled by bytes that nobody has
checked, so they are read as the engine reads a number from any text.

* `SqlValue.ofStored?` and `Stored.typeName` are the value and the type of a part that was read from
  text.
* `SqlValue.ofBinary?` and `BinaryPart.typeName` are those of a part in binary form.
-/

namespace DocSelect

namespace SqlValue

/-! ### Parts that were read from text -/

/-- The value of a whole number: an integer in the signed range, otherwise the nearest binary
number. -/
def ofInt (n : Int) : SqlValue :=
  if -0x8000000000000000 ≤ n ∧ n < 0x8000000000000000 then .integer n
  else .real (.ofOption (n < 0) (Decimal.toBinary64Within? (n < 0) ⟨n.natAbs, 0⟩))

/-- The binary number of a text; a text past the largest number is infinity. -/
def ofFloatText? (spelled : List Char) : Option SqlValue :=
  match FloatValue.readWithin? spelled with
  | some (.finite x) => some (.real (.finite x))
  | some (.infinite n) => some (.real (.infinite n))
  | _ => none

/-- An integer in hexadecimal: sixteen digits are the bits of a signed integer. -/
def ofHexadecimal? (negative : Bool) (digits : List Char) : Option SqlValue :=
  let n := hexValue digits
  if n < 0x10000000000000000 then
    let signed := Int.bmod n 0x10000000000000000
    some (.integer (if negative then Int.bmod (-signed) 0x10000000000000000 else signed))
  else none

/-- The value of a part of a document: arrays and objects are their text. -/
def ofStored? : Stored → Option SqlValue
  | .null => some .null
  | .bool b => some (ofBool b)
  | .integer spelled => (readInt? spelled).map ofInt
  | .hexadecimal negative digits => ofHexadecimal? negative digits
  | .float spelled => ofFloatText? spelled
  | .string s => some (.text s.toBytes.contents)
  | x => some (.text x.text)

/-! ### Parts in binary form -/

/-- A blank around a number. -/
def isNumberBlank (c : Char) : Bool := c == ' ' || ('\t' ≤ c && c ≤ '\r')

/-- What a text spells where an integer is expected. -/
inductive IntegerText
  /-- An integer of 64 bits. -/
  | integer (n : Int)
  /-- The first number past them. -/
  | limit
  /-- No digits, or a larger number. -/
  | other
  /-- An integer with something behind it. -/
  | malformed

/-- Reads hexadecimal digits behind `0x`. -/
def hexadecimalText (s : List Char) : IntegerText :=
  let s := s.dropWhile (· == '0')
  let ds := s.takeWhile isHexDigit
  if 16 < ds.length then .other
  else if ds.length < s.length then .malformed
  else .integer (Int.bmod (hexValue ds) 0x10000000000000000)

/-- Reads decimal digits with an optional sign and blanks around them. Of what follows signs, blanks
and digits, one character is looked at. -/
def decimalText (s : List Char) : IntegerText :=
  let inert (c : Char) : Bool := c.isDigit || c ∈ ['+', '-', ' ', '\n', '\t']
  let s := (s.take ((s.takeWhile inert).length + 1)).dropWhile isNumberBlank
  let (negative, s) : Bool × List Char := match s with
    | '-' :: rest => (true, rest)
    | '+' :: rest => (false, rest)
    | _ => (false, s)
  let ds := s.takeWhile Char.isDigit
  let n := digitsValue ds
  let significant := (ds.dropWhile (· == '0')).length
  let end? : IntegerText :=
    if (s.drop ds.length).all isNumberBlank then .integer (if negative then -n else n)
    else .malformed
  if ds.isEmpty then .other
  else if significant < 19 ∨ (significant = 19 ∧ n < 0x8000000000000000) then end?
  else if n = 0x8000000000000000 then if negative then end? else .limit
  else .other

/-- Reads an integer. -/
def integerText : List Char → IntegerText
  | '0' :: 'x' :: rest | '0' :: 'X' :: rest => hexadecimalText rest
  | s => decimalText s

/-- The characters of bytes, up to a zero. -/
def charsBeforeZero (bytes : List UInt8) : List Char :=
  (bytes.takeWhile (· != 0)).map StringBytes.byteChar

/-- The binary number that bytes spell in decimal. -/
def ofFloatBytes? (bytes : List UInt8) : Option SqlValue :=
  let s := (charsBeforeZero bytes).dropWhile isNumberBlank
  let s := (s.reverse.dropWhile isNumberBlank).reverse
  let (negative, s) : Bool × List Char := match s with
    | '-' :: rest => (true, rest)
    | '+' :: rest => (false, rest)
    | _ => (false, s)
  (readDecimal? s).map fun d => .real (.ofOption negative (d.toBinary64Within? negative))

/-- The number that bytes spell where an integer is expected. One beyond 64 bits is a binary
number. -/
def ofIntegerBytes? (bytes : List UInt8) : Option SqlValue :=
  let (negative, digits) : Bool × List UInt8 := match bytes with
    | 0x2D :: rest => (true, rest)
    | _ => (false, bytes)
  if digits.isEmpty then none
  else
    match integerText (charsBeforeZero digits) with
    | .integer n => some (.integer (if negative then Int.bmod (-n) 0x10000000000000000 else n))
    | .limit => if negative then some (.integer (-0x8000000000000000)) else ofFloatBytes? bytes
    | .other => ofFloatBytes? bytes
    | .malformed => none

/-- The value of the part at the start of bytes: arrays and objects are their text. -/
def ofBinary? (bytes : List UInt8) : Option SqlValue := do
  let p ← BinaryPart.read? bytes
  let constant (v : SqlValue) : Option SqlValue := if p.contents.isEmpty then some v else none
  match p.kind with
  | 0 => constant .null
  | 1 => constant (ofBool true)
  | 2 => constant (ofBool false)
  | 3 | 4 => ofIntegerBytes? p.contents
  | 5 | 6 => ofFloatBytes? p.contents
  | 7 | 8 | 9 | 10 => some (.text p.toBytes.contents)
  | 11 | 12 => (BinaryPart.text? (bytes.take (bytes.length - p.behind.length))).map .text
  | _ => none

end SqlValue

/-- The name of the type of a part of a document. -/
def Stored.typeName : Stored → String
  | .null => "null"
  | .bool true => "true"
  | .bool false => "false"
  | .integer _ | .hexadecimal _ _ => "integer"
  | .float _ => "real"
  | .string _ => "text"
  | .array _ => "array"
  | .object _ => "object"

/-- The name of the type of the part at the start of bytes, told by its kind alone. -/
def BinaryPart.typeName (bytes : List UInt8) : String :=
  match kindOf bytes with
  | 0 => "null"
  | 1 => "true"
  | 2 => "false"
  | 3 | 4 => "integer"
  | 5 | 6 => "real"
  | 7 | 8 | 9 | 10 => "text"
  | 11 => "array"
  | 12 => "object"
  | _ => ""

end DocSelect
