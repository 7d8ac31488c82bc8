import DocSelect.Text.Quoted
import DocSelect.Text.Utf8
/-!
# Failures of reading JSON text

A failure carries its cause and the text that was still unread when it arose. From the unread
text its position is found: the line, and the column in bytes.

* `Cause` lists what can be wrong with a text, `Cause.message` words it.
* `Found` describes a value that has not the expected shape.
* `Failure.position` is the line and the column, `Failure.message` the whole report.
* `restate` reports a text that already ends in a position.
-/

namespace DocSelect.Json

/-- What was found where another shape was expected. -/
inductive Found
  /-- A null. -/
  | null
  /-- A truth value. -/
  | bool (b : Bool)
  /-- An integer. -/
  | integer (n : Int)
  /-- A binary number, by its text. -/
  | floating (text : String)
  /-- A string. -/
  | string (s : String)
  /-- An array. -/
  | sequence
  /-- An object. -/
  | map
  /-- The bare name of a variant. -/
  | unitVariant
  deriving DecidableEq

/-- What is wrong with a text. -/
inductive Cause
  /-- The text ends where a value should stand. -/
  | endInValue
  /-- The text ends inside a string. -/
  | endInString
  /-- The text ends inside an array. -/
  | endInList
  /-- The text ends inside an object. -/
  | endInObject
  /-- No value starts like this. -/
  | expectedValue
  /-- A word that is none of the three constants. -/
  | expectedIdent
  /-- A malformed number. -/
  | invalidNumber
  /-- A number past the largest finite one. -/
  | numberOutOfRange
  /-- A raw control character in a string. -/
  | controlCharacter
  /-- An unknown escape. -/
  | invalidEscape
  /-- Half of a surrogate pair. -/
  | loneSurrogate
  /-- The first half of a surrogate pair without a second. -/
  | endOfHexEscape
  /-- Too many nested arrays and objects. -/
  | tooDeep
  /-- Something else than a comma or the end of an array. -/
  | expectedListEnd
  /-- Something else than a comma or the end of an object. -/
  | expectedObjectEnd
  /-- Something else than the colon behind a key. -/
  | expectedColon
  /-- A key that is no string. -/
  | keyNotString
  /-- A comma before a closing bracket. -/
  | trailingComma
  /-- Text behind the value. -/
  | trailingCharacters
  /-- A value of another type. -/
  | invalidType (found : Found) (expected : String)
  /-- A value of the right type but not in range. -/
  | invalidValue (found : Found) (expected : String)
  /-- A name that is none of the known ones. -/
  | unknownVariant (name : String) (known : List String)
  /-- A field that is not there. -/
  | missingField (name : String)
  /-- A field that is there twice. -/
  | duplicateField (name : String)
  /-- A list of the wrong length. -/
  | invalidLength (length : Nat) (expected : String)
  /-- A value that is none of the alternatives of a type. -/
  | noAlternative (type : String)
  deriving DecidableEq

/-- The description of a found value. -/
def Found.describe : Found → String
  | .null => "null"
  | .bool b => "boolean `" ++ (if b then "true" else "false") ++ "`"
  | .integer n => "integer `" ++ toString n ++ "`"
  | .floating text => "floating point `" ++ text ++ "`"
  | .string s => "string " ++ quotedText s
  | .sequence => "sequence"
  | .map => "map"
  | .unitVariant => "unit variant"

/-- Names in back quotes, separated by commas. -/
def quotedNames (names : List String) : String :=
  ", ".intercalate (names.map fun n => "`" ++ n ++ "`")

/-- The cause in words. -/
def Cause.message : Cause → String
  | .endInValue => "EOF while parsing a value"
  | .endInString => "EOF while parsing a string"
  | .endInList => "EOF while parsing a list"
  | .endInObject => "EOF while parsing an object"
  | .expectedValue => "expected value"
  | .expectedIdent => "expected ident"
  | .invalidNumber => "invalid number"
  | .numberOutOfRange => "number out of range"
  | .controlCharacter =>
    "control character (\\u0000-\\u001F) found while parsing a string"
  | .invalidEscape => "invalid escape"
  | .loneSurrogate => "lone leading surrogate in hex escape"
  | .endOfHexEscape => "unexpected end of hex escape"
  | .tooDeep => "recursion limit exceeded"
  | .expectedListEnd => "expected `,` or `]`"
  | .expectedObjectEnd => "expected `,` or `\x7d`"
  | .expectedColon => "expected `:`"
  | .keyNotString => "key must be a string"
  | .trailingComma => "trailing comma"
  | .trailingCharacters => "trailing characters"
  | .invalidType found expected =>
    "invalid type: " ++ found.describe ++ ", expected " ++ expected
  | .invalidValue found expected =>
    "invalid value: " ++ found.describe ++ ", expected " ++ expected
  | .unknownVariant name known =>
    "unknown variant `" ++ name ++ "`, expected " ++
      (match known with
        | [one] => "`" ++ one ++ "`"
        | [one, two] => "`" ++ one ++ "` or `" ++ two ++ "`"
        | _ => "one of " ++ quotedNames known)
  | .missingField name => "missing field `" ++ name ++ "`"
  | .duplicateField name => "duplicate field `" ++ name ++ "`"
  | .invalidLength length expected =>
    "invalid length " ++ toString length ++ ", expected " ++ expected
  | .noAlternative type => "data did not match any variant of untagged enum " ++ type

/-- Where a failure points, relative to the unread text. -/
inductive Place
  /-- Behind the bytes read so far, and `taken` bytes of the unread text. -/
  | behind (taken : Nat)
  /-- At the next unread byte, or at the end of the text. -/
  | next
  /-- Nowhere: the failure is reported without a position. -/
  | nowhere
  deriving DecidableEq

/-- A failure of reading a text. -/
structure Failure where
  /-- What is wrong. -/
  cause : Cause
  /-- The text still unread. -/
  rest : List Char
  /-- Where it points. -/
  place : Place
  deriving DecidableEq

/-- The line and the column of a position of `offset` bytes in a text. -/
structure Position where
  /-- The line, from one. -/
  line : Nat
  /-- The column in bytes, from one; zero just behind a line end. -/
  column : Nat
  deriving DecidableEq

/-- Walks over the characters that end within `offset` bytes. -/
def Position.walk (offset : Nat) : Position → List Char → Position
  | p, [] => p
  | p, c :: s =>
    if offset = 0 then p
    else if c = '\n' then walk (offset - 1) ⟨p.line + 1, 0⟩ s
    else walk (offset - c.utf8Size) ⟨p.line, p.column + min offset c.utf8Size⟩ s
termination_by structural _ s => s

namespace Failure

/-- The offset in bytes, in the text that was read. -/
def offset? (f : Failure) (text : List Char) : Option Nat :=
  let total := utf8Length text
  let read := total - utf8Length f.rest
  match f.place with
  | .behind taken => some (read + taken)
  | .next => some (min (read + 1) total)
  | .nowhere => none

/-- The position in the text that was read. -/
def position? (f : Failure) (text : List Char) : Option Position :=
  (f.offset? text).map fun n => Position.walk n ⟨1, 0⟩ text

end Failure

/-- A reason followed by its position; line zero stands for no position. -/
def located (reason : String) : Option Position → String
  | none => reason
  | some p =>
    if p.line = 0 then reason
    else reason ++ " at line " ++ toString p.line ++ " column " ++ toString p.column

/-- The report of a failure: its cause and its position. -/
def Failure.message (f : Failure) (text : List Char) : String :=
  located f.cause.message (f.position? text)

/-- The digits at the start of a text, as a number, and the text behind them. -/
def leadingNumber (s : List Char) : Option (Nat × List Char) :=
  let ds := s.takeWhile Char.isDigit
  if ds.isEmpty then none
  else
    let n := ds.foldl (fun acc d => acc * 10 + (d.toNat - 48)) 0
    if n < 0x10000000000000000 then some (n, s.dropWhile Char.isDigit) else none

/-- The text behind a given beginning. -/
def dropStart? : List Char → List Char → Option (List Char)
  | [], s => some s
  | _ :: _, [] => none
  | a :: p, b :: s => if a = b then dropStart? p s else none

/-- The position that a whole text spells: a line and a column. -/
def positionText? (s : List Char) : Option Position := do
  let s ← dropStart? " at line ".toList s
  let (line, s) ← leadingNumber s
  let s ← dropStart? " column ".toList s
  let (column, s) ← leadingNumber s
  if s.isEmpty then some ⟨line, column⟩ else none

/-- Splits a position off the end of a text: the last place where the marker of a position stands
decides. -/
def splitPosition : List Char → Option (List Char × Option Position)
  | [] => none
  | c :: s =>
    match splitPosition s with
    | some (before, p) => some (c :: before, p)
    | none => if (dropStart? " at line ".toList (c :: s)).isSome
        then some ([], positionText? (c :: s)) else none

/-- The report of a reason that may itself end in a position: that position is then the one
reported, and line zero stands for none. -/
def restate (reason : String) : String :=
  match splitPosition reason.toList with
  | some (before, some p) => located (String.ofList before) (some p)
  | _ => reason

end DocSelect.Json
