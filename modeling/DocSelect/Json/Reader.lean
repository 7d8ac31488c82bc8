import DocSelect.Json.Basic
import DocSelect.Json.Failure
/-!
# Reading JSON text

A reader takes the unread characters and answers with a value and what is left of them, or with
a failure. Arrays and objects nest up to a given depth; blanks are the four of the JSON grammar.

* `Json.Read.string` reads the rest of a string, `Json.Read.number` a number.
* `Json.Read.value` reads a document of bounded depth, repeated keys included.
* `Json.read` reads a whole text, `Json.readCollapsed` keeps each key once.

The value of a number with a point or an exponent is computed as follows: as many digits as fit
64 bits are read exactly, the others only move the decimal exponent, and the result is scaled by
one power of ten with a single rounding. It is not always the nearest binary number.
-/

namespace DocSelect.Json

namespace Read

/-- Fails behind the text read so far. -/
def failAt {α : Type} (cause : Cause) (rest : List Char) : Except Failure α :=
  .error ⟨cause, rest, .behind 0⟩

/-- Fails behind the next byte, which has been read. -/
def failPast {α : Type} (cause : Cause) (rest : List Char) : Except Failure α :=
  .error ⟨cause, rest, .behind 1⟩

/-- Fails at the next byte. -/
def failNext {α : Type} (cause : Cause) (rest : List Char) : Except Failure α :=
  .error ⟨cause, rest, .next⟩

/-- The blanks of the JSON grammar. -/
def isBlank (c : Char) : Bool := c == ' ' || c == '\t' || c == '\n' || c == '\r'

/-- The text behind leading blanks. -/
def skipBlank (s : List Char) : List Char := s.dropWhile isBlank

/-! ## Strings -/

/-- The value of a hexadecimal digit. -/
def hexValue? (c : Char) : Option Nat :=
  if '0' ≤ c ∧ c ≤ '9' then some (c.toNat - 48)
  else if 'a' ≤ c ∧ c ≤ 'f' then some (c.toNat - 87)
  else if 'A' ≤ c ∧ c ≤ 'F' then some (c.toNat - 55)
  else none

/-- Four hexadecimal digits. Four bytes are read in any case, or all that is left. -/
def hexFour (s : List Char) : Except Failure (Nat × List Char) :=
  if utf8Length (s.take 4) < 4 then failAt .endInString []
  else match s with
    | a :: b :: c :: d :: rest =>
      match hexValue? a, hexValue? b, hexValue? c, hexValue? d with
      | some a, some b, some c, some d => .ok (((a * 16 + b) * 16 + c) * 16 + d, rest)
      | _, _, _, _ => .error ⟨.invalidEscape, s, .behind 4⟩
    | _ => .error ⟨.invalidEscape, s, .behind 4⟩

/-- One expected byte of the second half of a surrogate pair. -/
def pairMark (mark : Char) : List Char → Except Failure (List Char)
  | [] => failAt .endInString []
  | c :: rest => if c = mark then .ok rest else failPast .endOfHexEscape (c :: rest)

/-- The character of a hexadecimal escape, of two for a surrogate pair. -/
def hexEscape (s : List Char) : Except Failure (Char × List Char) := do
  let (high, rest) ← hexFour s
  if 0xDC00 ≤ high ∧ high ≤ 0xDFFF then failAt .loneSurrogate rest
  else if 0xD800 ≤ high ∧ high ≤ 0xDBFF then
    let rest ← pairMark '\\' rest
    let rest ← pairMark 'u' rest
    let (low, rest) ← hexFour rest
    if 0xDC00 ≤ low ∧ low ≤ 0xDFFF then
      .ok (Char.ofNat ((high - 0xD800) * 0x400 + (low - 0xDC00) + 0x10000), rest)
    else failAt .loneSurrogate rest
  else .ok (Char.ofNat high, rest)

/-- The character that a letter behind a backslash stands for. -/
def simpleEscape? (c : Char) : Option Char :=
  if c = '"' then some '"'
  else if c = '\\' then some '\\'
  else if c = '/' then some '/'
  else if c = 'b' then some '\x08'
  else if c = 'f' then some '\x0c'
  else if c = 'n' then some '\n'
  else if c = 'r' then some '\r'
  else if c = 't' then some '\t'
  else none

/-- The character of an escape, behind its backslash. -/
def escaped : List Char → Except Failure (Char × List Char)
  | [] => failAt .endInString []
  | c :: rest =>
    if c = 'u' then hexEscape rest
    else match simpleEscape? c with
      | some d => .ok (d, rest)
      | none => failPast .invalidEscape (c :: rest)

/-- The characters of a string, behind its opening quote. The fuel bounds their number. -/
def stringChars : Nat → List Char → Except Failure (List Char × List Char)
  | _, [] => failAt .endInString []
  | 0, s => failAt .endInString s
  | fuel + 1, c :: rest =>
    if c = '"' then .ok ([], rest)
    else if c = '\\' then do
      let (d, rest) ← escaped rest
      let (ds, rest) ← stringChars fuel rest
      .ok (d :: ds, rest)
    else if c.toNat < 0x20 then failAt .controlCharacter rest
    else do
      let (ds, rest) ← stringChars fuel rest
      .ok (c :: ds, rest)

/-- A string, behind its opening quote. -/
def string (s : List Char) : Except Failure (String × List Char) := do
  let (cs, rest) ← stringChars s.length s
  .ok (String.ofList cs, rest)

/-! ## Numbers -/

/-- The value of a decimal digit. -/
def digitValue (c : Char) : Nat := c.toNat - 48

/-- The largest significand that is kept exactly. -/
def maxSignificand : Nat := 0xffffffffffffffff

/-- The digits of a number: those that fit, and the power of ten they still need. -/
structure Digits where
  /-- The digits that fit 64 bits. -/
  significand : Nat
  /-- The power of ten. -/
  exponent : Int
  /-- Whether a digit did not fit. -/
  full : Bool

/-- Takes up one digit before the point: once a digit does not fit, each one counts a power of
ten. -/
def Digits.push (d : Digits) (c : Char) : Digits :=
  if d.full ∨ maxSignificand < d.significand * 10 + digitValue c then
    { d with exponent := d.exponent + 1, full := true }
  else { d with significand := d.significand * 10 + digitValue c }

/-- Takes up one digit behind the point: once a digit does not fit, it and all others are
dropped. -/
def Digits.pushFraction (d : Digits) (c : Char) : Digits :=
  if d.full ∨ maxSignificand < d.significand * 10 + digitValue c then { d with full := true }
  else { d with significand := d.significand * 10 + digitValue c, exponent := d.exponent - 1 }

/-- The value of a significand times a power of ten, with one rounding at each step; none if it is
past the largest finite number. A negative power beyond the table is taken off in pieces. -/
def scaleByTen? : Nat → Binary64 → Int → Option Binary64
  | fuel, x, e =>
    if e.natAbs ≤ 308 then
      if 0 ≤ e then (Binary64.powerOfTen? e.toNat).bind x.times?
      else (Binary64.powerOfTen? (-e).toNat).bind x.over?
    else if x.isZero then some x
    else if 0 ≤ e then none
    else match fuel with
      | 0 => none
      | fuel + 1 =>
        ((Binary64.powerOfTen? 308).bind x.over?).bind fun y => scaleByTen? fuel y (e + 308)
termination_by structural fuel => fuel

/-- The binary number of a sign, the kept digits and the power of ten. -/
def floatOfParts? (negative : Bool) (significand : Nat) (e : Int) : Option Binary64 := do
  let x ← Binary64.ofNat? significand
  let y ← scaleByTen? (e.natAbs / 308 + 1) x e
  some (if negative then y.neg else y)

/-- The binary number of the digits read, failing behind them if it is not finite. -/
def floatNumber (negative : Bool) (d : Digits) (e : Int) (rest : List Char) :
    Except Failure (Number × List Char) :=
  match floatOfParts? negative d.significand e with
  | some x => .ok (.float x, rest)
  | none => failAt .numberOutOfRange rest

/-- The largest explicit exponent. -/
def maxExponent : Nat := 0x7fffffff

/-- The digits of an explicit exponent; none once they exceed the largest one. The text behind the
last digit read comes with it. -/
def exponentDigits : Nat → List Char → Option Nat × List Char
  | n, [] => (some n, [])
  | n, c :: rest =>
    if c.isDigit then
      if maxExponent < n * 10 + digitValue c then (none, rest)
      else exponentDigits (n * 10 + digitValue c) rest
    else (some n, c :: rest)

/-- The explicit exponent and the value, behind the letter of the exponent. An exponent beyond the
largest one makes the number zero, or puts it out of range. -/
def exponentPart (negative : Bool) (d : Digits) (s : List Char) :
    Except Failure (Number × List Char) :=
  let (down, s) := match s with
    | '+' :: rest => (false, rest)
    | '-' :: rest => (true, rest)
    | _ => (false, s)
  match s with
  | [] => failAt .endInValue []
  | c :: rest =>
    if c.isDigit then
      match exponentDigits 0 (c :: rest) with
      | (some n, rest) =>
        floatNumber negative d (if down then d.exponent - n else d.exponent + n) rest
      | (none, rest) =>
        if d.significand ≠ 0 ∧ !down then failAt .numberOutOfRange rest
        else .ok (.float (.zero negative), rest.dropWhile Char.isDigit)
    else failPast .invalidNumber (c :: rest)

/-- What may follow the digits of a number with a point: an exponent, or nothing. -/
def afterFraction (negative : Bool) (d : Digits) : List Char → Except Failure (Number × List Char)
  | [] => floatNumber negative d d.exponent []
  | c :: rest =>
    if c = 'e' ∨ c = 'E' then exponentPart negative d rest
    else floatNumber negative d d.exponent (c :: rest)

/-- The digits behind the point, at least one. -/
def fractionPart (negative : Bool) (d : Digits) (s : List Char) :
    Except Failure (Number × List Char) :=
  let ds := s.takeWhile Char.isDigit
  let rest := s.dropWhile Char.isDigit
  if ds.isEmpty then
    if rest.isEmpty then failNext .endInValue rest else failNext .invalidNumber rest
  else afterFraction negative (ds.foldl Digits.pushFraction { d with full := false }) rest

/-- The number of an integer spelling. Minus zero, and whatever does not fit 64 bits, is a binary
number. -/
def integerNumber (negative : Bool) (d : Digits) (rest : List Char) :
    Except Failure (Number × List Char) :=
  if d.full then floatNumber negative d d.exponent rest
  else if negative then
    if d.significand = 0 then .ok (.float (.zero true), rest)
    else match Whole.ofInt? (-(d.significand : Int)) with
      | some w => .ok (.whole w, rest)
      | none => floatNumber true d 0 rest
  else match Whole.ofInt? d.significand with
    | some w => .ok (.whole w, rest)
    | none => floatNumber false d 0 rest

/-- What may follow the digits before the point. -/
def afterInteger (negative : Bool) (d : Digits) : List Char → Except Failure (Number × List Char)
  | [] => integerNumber negative d []
  | c :: rest =>
    if c = '.' then fractionPart negative d rest
    else if c = 'e' ∨ c = 'E' then exponentPart negative d rest
    else integerNumber negative d (c :: rest)

/-- A number, behind its sign. -/
def unsignedNumber (negative : Bool) : List Char → Except Failure (Number × List Char)
  | [] => failAt .endInValue []
  | c :: rest =>
    if c = '0' then
      match rest with
      | d :: _ => if d.isDigit then failNext .invalidNumber rest
          else afterInteger negative ⟨0, 0, false⟩ rest
      | [] => afterInteger negative ⟨0, 0, false⟩ []
    else if c.isDigit then
      afterInteger negative (((c :: rest).takeWhile Char.isDigit).foldl Digits.push ⟨0, 0, false⟩)
        (rest.dropWhile Char.isDigit)
    else failPast .invalidNumber (c :: rest)

/-- A number, at its sign or first digit. -/
def number : List Char → Except Failure (Number × List Char)
  | '-' :: rest => unsignedNumber true rest
  | s => unsignedNumber false s

/-! ## Values -/

/-- The remaining letters of one of the three constants. -/
def word : List Char → List Char → Except Failure (List Char)
  | [], s => .ok s
  | _ :: _, [] => failAt .endInValue []
  | a :: expected, c :: rest =>
    if c = a then word expected rest else failPast .expectedIdent (c :: rest)

section Nested

variable {α : Type} (item : List Char → Except Failure (α × List Char))

/-- What follows an item of an array: its end, or a comma and the next item. The fuel bounds the
number of commas. -/
def moreItems : Nat → List Char → Except Failure (List α × List Char)
  | 0, s => failNext .endInList s
  | fuel + 1, s =>
    match skipBlank s with
    | [] => failNext .endInList []
    | c :: rest =>
      if c = ']' then .ok ([], rest)
      else if c = ',' then
        match skipBlank rest with
        | [] => failNext .endInValue []
        | d :: rest =>
          if d = ']' then failNext .trailingComma (d :: rest)
          else do
            let (x, rest) ← item (d :: rest)
            let (xs, rest) ← moreItems fuel rest
            .ok (x :: xs, rest)
      else failNext .expectedListEnd (c :: rest)

/-- The items of an array, behind its opening bracket. -/
def items (s : List Char) : Except Failure (List α × List Char) :=
  match skipBlank s with
  | [] => failNext .endInList []
  | c :: rest =>
    if c = ']' then .ok ([], rest)
    else do
      let (x, rest) ← item (c :: rest)
      let (xs, rest) ← moreItems item (rest.length + 1) rest
      .ok (x :: xs, rest)

/-- The colon behind a key. -/
def colon (s : List Char) : Except Failure (List Char) :=
  match skipBlank s with
  | [] => failNext .endInObject []
  | c :: rest => if c = ':' then .ok rest else failNext .expectedColon (c :: rest)

/-- A key with its colon, at the key's opening quote. -/
def key : List Char → Except Failure (String × List Char)
  | '"' :: rest => do
    let (k, rest) ← string rest
    let rest ← colon rest
    .ok (k, rest)
  | s => failNext .keyNotString s

/-- What follows an entry of an object: its end, or a comma and the next entry. The fuel bounds
the number of commas. -/
def moreEntries : Nat → List Char → Except Failure (List (String × α) × List Char)
  | 0, s => failNext .endInObject s
  | fuel + 1, s =>
    match skipBlank s with
    | [] => failNext .endInObject []
    | c :: rest =>
      if c = '}' then .ok ([], rest)
      else if c = ',' then
        match skipBlank rest with
        | [] => failNext .endInValue []
        | d :: rest =>
          if d = '}' then failNext .trailingComma (d :: rest)
          else do
            let (k, rest) ← key (d :: rest)
            let (x, rest) ← item rest
            let (xs, rest) ← moreEntries fuel rest
            .ok ((k, x) :: xs, rest)
      else failNext .expectedObjectEnd (c :: rest)

/-- The entries of an object, behind its opening brace. -/
def entries (s : List Char) : Except Failure (List (String × α) × List Char) :=
  match skipBlank s with
  | [] => failNext .endInObject []
  | c :: rest =>
    if c = '}' then .ok ([], rest)
    else do
      let (k, rest) ← key (c :: rest)
      let (x, rest) ← item rest
      let (xs, rest) ← moreEntries item (rest.length + 1) rest
      .ok ((k, x) :: xs, rest)

end Nested

/-- A document whose arrays and objects nest at most `depth` deep. -/
def value (depth : Nat) (s : List Char) : Except Failure (Json × List Char) :=
  match skipBlank s with
  | [] => failNext .endInValue []
  | c :: rest =>
    if c = '"' then do
      let (x, rest) ← string rest
      .ok (.string x, rest)
    else if c = '[' then
      match depth with
      | 0 => failNext .tooDeep (c :: rest)
      | depth + 1 => do
        let (xs, rest) ← items (value depth) rest
        .ok (.array xs, rest)
    else if c = '{' then
      match depth with
      | 0 => failNext .tooDeep (c :: rest)
      | depth + 1 => do
        let (xs, rest) ← entries (value depth) rest
        .ok (.object xs, rest)
    else if c = 'n' then do
      let rest ← word ['u', 'l', 'l'] rest
      .ok (.null, rest)
    else if c = 't' then do
      let rest ← word ['r', 'u', 'e'] rest
      .ok (.bool true, rest)
    else if c = 'f' then do
      let rest ← word ['a', 'l', 's', 'e'] rest
      .ok (.bool false, rest)
    else if c = '-' ∨ c.isDigit then do
      let (n, rest) ← number (c :: rest)
      .ok (.number n, rest)
    else failNext .expectedValue (c :: rest)
termination_by structural depth

/-- Nothing but blanks may follow. -/
def finish (s : List Char) : Except Failure Unit :=
  match skipBlank s with
  | [] => .ok ()
  | c :: rest => failNext .trailingCharacters (c :: rest)

end Read

/-- How deep arrays and objects may nest in a text. -/
def maxDepth : Nat := 127

/-- Reads a whole text whose arrays and objects nest at most `depth` deep. -/
def readTo (depth : Nat) (text : List Char) : Except Failure Json := do
  let (d, rest) ← Read.value depth text
  Read.finish rest
  .ok d

/-- Reads a whole text, repeated keys included. -/
def read (text : String) : Except Failure Json := readTo maxDepth text.toList

/-- Reads a whole text and keeps each key once. -/
def readCollapsed (text : String) : Except Failure Json := (read text).map collapse

end DocSelect.Json
