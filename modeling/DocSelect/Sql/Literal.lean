import DocSelect.Sql.Value
/-!
# Literals of SQL text

The text of a scalar inside a statement. Only the quote has a meaning in a string literal, and it
is doubled; a string with a zero character is written as its bytes, for a statement ends at a zero
character.

* `Literal.quoted` is the literal of a string, `Literal.ofScalar` that of a scalar.
-/

namespace DocSelect.Literal

/-- Doubles the quotes. -/
def doubleQuotes : List Char → List Char
  | [] => []
  | c :: rest => if c = '\'' then '\'' :: '\'' :: doubleQuotes rest else c :: doubleQuotes rest

/-- Two hexadecimal digits for each byte. -/
def hexBytes (bytes : List UInt8) : List Char :=
  bytes.flatMap fun b => [hexDigitUpper (b.toNat / 16), hexDigitUpper b.toNat]

/-- A string as the bytes of its encoding. -/
def hexText (s : List Char) : List Char :=
  "CAST(X'".toList ++ hexBytes (utf8Bytes s) ++ "' AS TEXT)".toList

/-- The characters of a string literal. -/
def quotedChars (s : List Char) : List Char :=
  if '\x00' ∈ s then hexText s else '\'' :: doubleQuotes s ++ ['\'']

/-- The literal of a number. A binary number always has a point and never an exponent. -/
def numberChars : Number → List Char
  | .whole w => intText w.val
  | .float x => x.pointedText

/-- The characters of the literal of a scalar. -/
def chars : Scalar → List Char
  | .bool true => ['T', 'R', 'U', 'E']
  | .bool false => ['F', 'A', 'L', 'S', 'E']
  | .number n => numberChars n
  | .string s => quotedChars s.toList

/-- The literal of a string. -/
def quoted (s : String) : String := String.ofList (quotedChars s.toList)

/-- The literal of a scalar. -/
def ofScalar (v : Scalar) : String := String.ofList (chars v)

@[simp] theorem toList_ofScalar (v : Scalar) : (ofScalar v).toList = chars v := by
  simp [ofScalar]

end DocSelect.Literal
