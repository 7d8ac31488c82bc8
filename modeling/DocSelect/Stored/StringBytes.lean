import DocSelect.Stored.Basic
/-!
# Strings of stored documents as bytes

The engine keeps a string of a document as the bytes that spelled it. Escapes are looked at only
when the string is compared with a key of a path, or taken out of the document; they need not make
sense, for neither the keys of a path nor documents in binary form are checked.

* `StringBytes` are the bytes of a string, `Spelling.toBytes` those of a spelling.
* `StringBytes.contents` are the bytes of the text that they stand for.
* `StringBytes.names` says whether the key of a path is that of an entry.
-/

namespace DocSelect

/-- A string as the bytes that spelled it. -/
structure StringBytes where
  /-- The bytes between the quotes. -/
  bytes : List UInt8
  /-- Whether a backslash starts an escape. -/
  hasEscapes : Bool

/-- The bytes of a spelling. -/
def Spelling.toBytes (s : Spelling) : StringBytes := ⟨utf8Bytes s.chars, s.escapes != .none⟩

namespace StringBytes

/-- The number that stands for an escape that means nothing. As a code point it is taken for such
an escape. -/
def invalidCode : Nat := 0x99999

/-- A byte as the character of its number. -/
def byteChar (b : UInt8) : Char := Char.ofNat b.toNat

/-- The number that bytes spell in hexadecimal. -/
def hexNumber (bytes : List UInt8) : Nat := hexValue (bytes.map byteChar)

/-- The code point at the start of bytes, and the bytes behind it. The first byte of a character
takes up to three that continue it, and any other byte stands for itself. -/
def plainCode : List UInt8 → Nat × List UInt8
  | [] => (0, [])
  | b :: rest =>
    if b.toNat < 0xC0 then (b.toNat, rest)
    else
      let tail := (rest.take 3).takeWhile isContinuation
      (tail.foldl (fun n c => n * 64 + lowBits c) (leadBits b), rest.drop tail.length)

/-- The code point behind a backslash and `u`: two escapes of a surrogate pair are one code
point. -/
def unicodeEscape : List UInt8 → Nat × List UInt8
  | a :: b :: c :: d :: rest =>
    let high := hexNumber [a, b, c, d]
    if 0xD800 ≤ high ∧ high < 0xDC00 then
      match rest with
      | 0x5C :: 0x75 :: e :: f :: g :: h :: behind =>
        let low := hexNumber [e, f, g, h]
        if 0xDC00 ≤ low ∧ low < 0xE000 then
          ((high - 0xD800) * 1024 + (low - 0xDC00) + 0x10000, behind)
        else (high, rest)
      | _ => (high, rest)
    else (high, rest)
  | _ => (invalidCode, [])

/-- The code point of an escape of one character. -/
def simpleEscape? : Char → Option Nat
  | 'b' => some 0x08
  | 'f' => some 0x0C
  | 'n' => some 0x0A
  | 'r' => some 0x0D
  | 't' => some 0x09
  | 'v' => some 0x0B
  | '0' => some 0
  | '\'' => some 0x27
  | '"' => some 0x22
  | '/' => some 0x2F
  | '\\' => some 0x5C
  | _ => none

/-- The code point of an escape behind its backslash, and the bytes behind it. An escape that ends
too soon, or starts a character of three bytes, takes all of them. -/
def escapedCode : List UInt8 → Nat × List UInt8
  | [] => (invalidCode, [])
  | b :: rest =>
    if b = 0x75 then unicodeEscape rest
    else if b = 0x78 then
      match rest with
      | c :: d :: rest => (hexNumber [c, d], rest)
      | _ => (invalidCode, [])
    else if b = 0xE2 then (invalidCode, [])
    else ((simpleEscape? (byteChar b)).getD invalidCode, rest)

/-- Skips line ends behind backslashes. The fuel bounds their number. -/
def skipContinuations : Nat → List UInt8 → List UInt8
  | 0, s => s
  | fuel + 1, s =>
    match s with
    | 0x5C :: 0x0D :: 0x0A :: rest => skipContinuations fuel rest
    | 0x5C :: 0x0D :: rest | 0x5C :: 0x0A :: rest => skipContinuations fuel rest
    | 0x5C :: 0xE2 :: 0x80 :: 0xA8 :: rest | 0x5C :: 0xE2 :: 0x80 :: 0xA9 :: rest =>
      skipContinuations fuel rest
    | _ => s

/-- The code point at a backslash, and the bytes behind it. A line end behind a backslash stands
for nothing, but at the very end it is a zero. -/
def codeAtBackslash (s : List UInt8) : Nat × List UInt8 :=
  match skipContinuations s.length s with
  | [] => (0, [])
  | 0x5C :: rest => escapedCode rest
  | rest => plainCode rest

/-- The code points of bytes. The fuel bounds their number. -/
def codesFrom (hasEscapes : Bool) : Nat → List UInt8 → List Nat
  | 0, _ | _, [] => []
  | fuel + 1, b :: s =>
    let next := if hasEscapes ∧ b = 0x5C then codeAtBackslash (b :: s) else plainCode (b :: s)
    next.1 :: codesFrom hasEscapes fuel next.2

/-- The code points that a string stands for, up to a zero, which ends a text. -/
def codes (s : StringBytes) : List Nat :=
  (codesFrom s.hasEscapes s.bytes.length s.bytes).takeWhile (· != 0)

/-- The bytes with their escapes replaced; what means nothing is left out. The fuel bounds the
number of code points. -/
def unescaped : Nat → List UInt8 → List UInt8
  | 0, _ | _, [] => []
  | fuel + 1, b :: s =>
    if b = 0x5C then
      let next := codeAtBackslash (b :: s)
      (if next.1 = invalidCode then [] else codeBytes next.1) ++ unescaped fuel next.2
    else b :: unescaped fuel s

/-- The bytes of the text that a string stands for. -/
def contents (s : StringBytes) : List UInt8 :=
  if s.hasEscapes then unescaped s.bytes.length s.bytes else s.bytes

/-- Whether the key of an entry is the one that a path names. Two strings without escapes are
compared as they are, others by what they stand for. -/
def names (path key : StringBytes) : Bool :=
  if path.hasEscapes ∨ key.hasEscapes then path.codes == key.codes else path.bytes == key.bytes

end StringBytes

end DocSelect
