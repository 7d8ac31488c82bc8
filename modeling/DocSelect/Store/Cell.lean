import DocSelect.Json.Reader
import DocSelect.Store.BuiltIn
/-!
# Cells and rows

A row has a key and a cell, which may hold any value. A column with the affinity of text turns the
numbers that are put into it into their texts; null and blobs stay what they are.

* `Cell.asText` is what a value becomes in such a column, `Cell.value` the value of a cell.
* `Cell.decode` is the document in a cell.
-/

namespace DocSelect

/-- What stands in the column of the documents. -/
inductive Cell
  /-- Nothing. -/
  | null
  /-- An integer of 64 bits. -/
  | integer (n : Int)
  /-- A binary number. -/
  | real (x : Extended)
  /-- Text. -/
  | text (s : String)
  /-- Bytes. -/
  | blob (bytes : List UInt8)
  deriving DecidableEq

namespace Cell

/-- The cell of an integer. -/
def ofInt (n : Int) : Cell := .integer n

/-- The cell of a binary number. No number is stored as null. -/
def ofFloat : FloatValue → Cell
  | .finite x => .real (.finite x)
  | .infinite negative => .real (.infinite negative)
  | .nan => .null

/-- What a column with the affinity of text makes of a value. -/
def asText : Cell → Cell
  | .integer n => .text (String.ofList (intText n))
  | .real x => .text (String.ofList x.fifteenDigitText)
  | c => c

/-- The value of a cell. -/
def value : Cell → SqlValue
  | .null => .null
  | .integer n => .integer n
  | .real x => .real x
  | .text s => .ofString s
  | .blob bytes => .blob bytes

/-- The length that a condition on the cell sees: characters of text up to a zero character, or
bytes; a number has that of its text. Null has none. -/
def length? : Cell → Option Nat
  | .null => none
  | .integer n => some (intText n).length
  | .real x => some x.fifteenDigitText.length
  | .text s => some (s.toList.takeWhile (· != '\x00')).length
  | .blob bytes => some bytes.length

/-- The document in a cell, or the reason why there is none. -/
def decode : Cell → Except String Json
  | .null => .error "expected TEXT column, got Null"
  | .integer _ => .error "expected TEXT column, got Integer"
  | .real _ => .error "expected TEXT column, got Real"
  | .blob _ => .error "expected TEXT column, got Blob"
  | .text s => (Json.readCollapsed s).mapError fun f => f.message s.toList

/-- The cell of a document. -/
def ofJson (d : Json) : Cell := .text d.render

end Cell

/-- A row of a table. -/
structure Row where
  /-- The key. -/
  key : String
  /-- The document. -/
  value : Cell
  deriving DecidableEq

/-- The value of a column of a row. -/
def Row.column (r : Row) (name : String) : SqlValue :=
  if name = valueColumn then r.value.value else if name = keyColumn then .ofString r.key else .null

end DocSelect
