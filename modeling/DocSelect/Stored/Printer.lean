import DocSelect.Json.Printer
import DocSelect.Stored.Basic
/-!
# JSON text of stored documents

A part of a stored document is written as JSON without blanks. What is JSON already keeps its
spelling; the extension is rewritten. The text is made of bytes, so that the parts of a document in
binary form are written in the same way, whatever bytes they have.

* `StoredText.extended?`, `StoredText.raw`, `StoredText.completed` and `StoredText.hexadecimal?`
  rewrite strings and numbers.
* `StoredText.array` and `StoredText.object` put texts together.
* `Stored.text` is the text of a stored document.
-/

namespace DocSelect

namespace StoredText

/-- The bytes of a text. -/
def ascii (s : String) : List UInt8 := utf8Bytes s.toList

/-- A control character inside a string. -/
def control (b : UInt8) : List UInt8 :=
  if b = 0x08 then ascii "\\b"
  else if b = 0x09 then ascii "\\t"
  else if b = 0x0A then ascii "\\n"
  else if b = 0x0C then ascii "\\f"
  else if b = 0x0D then ascii "\\r"
  else ascii "\\u00" ++ utf8Bytes [hexDigit (b.toNat / 16), hexDigit b.toNat]

/-- A text with quotes around it. -/
def quoted (s : List UInt8) : List UInt8 := 0x22 :: s ++ [0x22]

/-- A string without escapes, with those that JSON needs. -/
def raw (s : List UInt8) : List UInt8 :=
  s.flatMap fun b =>
    if b = 0x22 ∨ b = 0x5C then [0x5C, b] else if b.toNat < 0x20 then control b else [b]

/-- The escape behind a backslash with the escapes of JSON only, and the bytes behind it. -/
def escape? : List UInt8 → Option (List UInt8 × List UInt8)
  | [] => none
  | 0x27 :: rest => some ([0x27], rest)
  | 0x76 :: rest => some (ascii "\\u0009", rest)
  | 0x78 :: a :: b :: rest => some (ascii "\\u00" ++ [a, b], rest)
  | 0x78 :: _ => none
  | 0x30 :: rest => some (ascii "\\u0000", rest)
  | 0x0D :: 0x0A :: rest | 0x0D :: rest | 0x0A :: rest => some ([], rest)
  | 0xE2 :: 0x80 :: 0xA8 :: rest | 0xE2 :: 0x80 :: 0xA9 :: rest => some ([], rest)
  | 0xE2 :: _ => none
  | b :: rest => some ([0x5C, b], rest)

/-- A string with the escapes of the extension, with those of JSON only; none if an escape ends too
soon. The fuel bounds its length. -/
def extended? : Nat → List UInt8 → Option (List UInt8)
  | 0, _ | _, [] => some []
  | fuel + 1, b :: s => do
    if b = 0x5C then
      let (head, rest) ← escape? s
      let tail ← extended? fuel rest
      some (head ++ tail)
    else
      let tail ← extended? fuel s
      some ((if b = 0x22 then [0x5C, b] else if b.toNat < 0x20 then control b else [b]) ++ tail)

/-- A decimal digit. -/
def isDigit (b : UInt8) : Bool := 0x30 ≤ b.toNat && b.toNat ≤ 0x39

/-- A zero behind each point that lacks digits there. -/
def behindPoints : List UInt8 → List UInt8
  | [] => []
  | b :: s => b :: (if b = 0x2E ∧ !(s.head?.any isDigit) then [0x30] else []) ++ behindPoints s

/-- A number with a zero on each side of its point that lacks digits there. -/
def completed (s : List UInt8) : List UInt8 :=
  let (sign, s) : List UInt8 × List UInt8 := match s with
    | 0x2D :: rest => ([0x2D], rest)
    | _ => ([], s)
  sign ++ (if s.head? = some 0x2E then [0x30] else []) ++ behindPoints s

/-- An integer in hexadecimal, written in decimal: its digits follow two characters and a sign. One
past 64 bits is past all numbers. -/
def hexadecimal? (s : List UInt8) : Option (List UInt8) :=
  let (sign, s) : List UInt8 × List UInt8 := match s with
    | 0x2D :: rest => ([0x2D], rest)
    | 0x2B :: rest => ([], rest)
    | _ => ([], s)
  let ds := (s.drop 2).map fun b => Char.ofNat b.toNat
  if ds.all isHexDigit then
    let n := hexValue ds
    some (sign ++ (if n < 0x10000000000000000 then utf8Bytes (natDigits n) else ascii "9.0e999"))
  else none

/-- Texts with commas between them. -/
def separated : List (List UInt8) → List UInt8
  | [] => []
  | [s] => s
  | s :: rest => s ++ 0x2C :: separated rest

/-- An array of texts. -/
def array (items : List (List UInt8)) : List UInt8 := 0x5B :: separated items ++ [0x5D]

/-- An object of the texts of keys and values. -/
def object (entries : List (List UInt8 × List UInt8)) : List UInt8 :=
  0x7B :: separated (entries.map fun e => e.1 ++ 0x3A :: e.2) ++ [0x7D]

end StoredText

/-- The text of a string. -/
def Spelling.text (s : Spelling) : List UInt8 :=
  let bytes := utf8Bytes s.chars
  StoredText.quoted <| match s.escapes with
    | .extended => (StoredText.extended? bytes.length bytes).getD []
    | _ => bytes

namespace Stored

mutual
/-- The text of a stored document. -/
def text : Stored → List UInt8
  | .null => StoredText.ascii "null"
  | .bool b => StoredText.ascii (if b then "true" else "false")
  | .integer spelled => utf8Bytes spelled
  | .hexadecimal negative digits =>
    let sign := if negative then ['-'] else []
    (StoredText.hexadecimal? (utf8Bytes (sign ++ '0' :: 'x' :: digits))).getD []
  | .float spelled => StoredText.completed (utf8Bytes spelled)
  | .string s => s.text
  | .array items => StoredText.array (texts items)
  | .object entries => StoredText.object (entryTexts entries)
termination_by structural x => x
/-- The texts of items. -/
def texts : List Stored → List (List UInt8)
  | [] => []
  | x :: rest => text x :: texts rest
termination_by structural items => items
/-- The texts of entries. -/
def entryTexts : List (Spelling × Stored) → List (List UInt8 × List UInt8)
  | [] => []
  | (k, x) :: rest => (k.text, text x) :: entryTexts rest
termination_by structural entries => entries
end

end Stored

end DocSelect
