import DocSelect.Text.Decode
/-!
# Stored documents

A stored document is JSON text as the SQL engine reads it, which is more than JSON: keys without
quotes, comments, hexadecimal numbers and so on. The spelling of numbers and strings is kept, for
it is what the engine writes back.

* `Stored` is a stored document, `Spelling` a string of one.
* `hexValue` is the number that hexadecimal digits spell.
-/

namespace DocSelect

/-- Which escapes the spelling of a string has. -/
inductive Escapes
  /-- None. -/
  | none
  /-- Those of JSON. -/
  | json
  /-- Others as well, or characters that JSON would escape. -/
  | extended
  deriving DecidableEq

/-- A string by its spelling between the quotes. -/
structure Spelling where
  /-- The characters. -/
  chars : List Char
  /-- The escapes. -/
  escapes : Escapes
  deriving DecidableEq

/-- A stored document. -/
inductive Stored
  /-- A null. -/
  | null
  /-- A truth value. -/
  | bool (b : Bool)
  /-- An integer in decimal, by its text. -/
  | integer (text : List Char)
  /-- An integer in hexadecimal, by its sign and digits. -/
  | hexadecimal (negative : Bool) (digits : List Char)
  /-- A binary number, by its text; digits may be missing on one side of the point. -/
  | float (text : List Char)
  /-- A string. -/
  | string (s : Spelling)
  /-- An array. -/
  | array (items : List Stored)
  /-- An object. -/
  | object (entries : List (Spelling × Stored))

instance : Inhabited Stored := ⟨.null⟩

/-- The value of a hexadecimal digit. Other characters have a value by the same computation. -/
def hexDigitValue (c : Char) : Nat := (c.toNat + 9 * (c.toNat / 64 % 2)) % 16

/-- A hexadecimal digit. -/
def isHexDigit (c : Char) : Bool :=
  c.isDigit || ('a' ≤ c && c ≤ 'f') || ('A' ≤ c && c ≤ 'F')

/-- The number that hexadecimal digits spell. -/
def hexValue (ds : List Char) : Nat := ds.foldl (fun n d => n * 16 + hexDigitValue d) 0

/-- The four hexadecimal digits at the start of a text, and the text behind them. -/
def fourHex? : List Char → Option (Nat × List Char)
  | a :: b :: c :: d :: rest =>
    if [a, b, c, d].all isHexDigit then some (hexValue [a, b, c, d], rest) else none
  | _ => none

end DocSelect
