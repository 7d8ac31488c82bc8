import DocSelect.Sql.StoredValue
import DocSelect.Stored.Reader
/-!
# Functions on stored documents

The engine has two functions of a document and a path. One gives the value that the path names, the
other the type of that value. A document is text, which is read as a whole before the path is
walked, or in binary form, of which the walk looks only at what it comes by.

* `EngineError` says why a statement fails.
* `JsonFunction.document` is the document of a value.
* `JsonFunction.apply` computes a function.
-/

namespace DocSelect

/-- Why a statement fails. -/
inductive EngineError
  /-- A document is malformed. -/
  | malformedJson
  /-- A path is malformed. -/
  | badPath (path : String)
  /-- A regular expression is malformed. -/
  | badPattern (pattern : String)
  /-- A regular expression is null. -/
  | nullPattern
  /-- Bytes are no text. -/
  | notText (e : Utf8Error)
  /-- A function is not there. -/
  | noFunction (name : String)
  /-- A table has no such column. -/
  | noColumn (name : String)
  /-- A table that is written to has no such column. -/
  | noColumnNamed (table column : String)
  /-- There is no such table. -/
  | noTable (name : String)
  /-- A table is there already. -/
  | tableExists (name : String)
  /-- A key is there already. -/
  | duplicateKey (table : String)
  /-- A condition on the columns does not hold. -/
  | checkFailed (condition : String)
  /-- Someone else has locked the database. -/
  | locked
  /-- The statement is malformed. -/
  | malformedStatement
  /-- A condition nests too deep. -/
  | tooDeep
  /-- A statement has too many placeholders. -/
  | tooManyPlaceholders
  /-- A pattern of wildcards is too long. -/
  | patternTooLong
  /-- A table of the engine's own is to be written to. -/
  | notWritable (table : String)
  /-- A table of the engine's own is to be removed. -/
  | notRemovable (table : String)
  /-- A table of the engine's own needs arguments. -/
  | noArguments (table : String)
  deriving DecidableEq

/-- A text with its quotes doubled. -/
def doubledQuotes (s : String) : String :=
  String.ofList (s.toList.flatMap fun c => if c = '\'' then [c, c] else [c])

/-- The failure in words. -/
def EngineError.message : EngineError → String
  | .malformedJson => "malformed JSON"
  | .badPath path => "bad JSON path: '" ++ doubledQuotes path ++ "'"
  | .badPattern _ => "regex parse error"
  | .nullPattern => "REGEXP pattern is NULL"
  | .notText e => e.message
  | .noFunction name => "no such function: " ++ name
  | .noColumn name => "no such column: " ++ name
  | .noColumnNamed table column => "table " ++ table ++ " has no column named " ++ column
  | .noTable name => "no such table: " ++ name
  | .tableExists name => "table \"" ++ name ++ "\" already exists"
  | .duplicateKey table => "UNIQUE constraint failed: " ++ table ++ ".key"
  | .checkFailed condition => "CHECK constraint failed: " ++ condition
  | .locked => "database is locked"
  | .malformedStatement => "syntax error"
  | .tooDeep => "Expression tree is too large (maximum depth 1000)"
  | .tooManyPlaceholders => "too many SQL variables"
  | .patternTooLong => "LIKE or GLOB pattern too complex"
  | .notWritable table => "table " ++ table ++ " may not be modified"
  | .notRemovable table => "table " ++ table ++ " may not be dropped"
  | .noArguments table => "invalid arguments to " ++ table ++ " constructor"

/-- A function of a document and a path. -/
inductive JsonFunction
  /-- The value that the path names. -/
  | extract
  /-- Its type. -/
  | typeOf
  deriving DecidableEq

namespace JsonFunction

/-- All functions. -/
def all : List JsonFunction := [extract, typeOf]

/-- The name in statements. -/
def name : JsonFunction → String
  | extract => "json_extract"
  | typeOf => "json_type"

/-- The text of a value; null has none. -/
def textOf? : SqlValue → Option (List UInt8)
  | .null => none
  | .integer n => some (utf8Bytes (intText n))
  | .real x => some (utf8Bytes x.fifteenDigitText)
  | .text bytes => some bytes
  | .blob bytes => some bytes

/-- A document as the functions get it. -/
inductive Document
  /-- Text that has been read. -/
  | text (x : Stored)
  /-- Bytes in binary form. -/
  | binary (bytes : List UInt8)

/-- The document of a value; null has none. Bytes that do not look like a document in binary form
are text. -/
def document (v : SqlValue) : Except EngineError (Option Document) :=
  let ofBytes (bytes : List UInt8) : Except EngineError (Option Document) :=
    match Stored.read? (lossyChars bytes.length bytes) with
    | some x => .ok (some (.text x))
    | none => .error .malformedJson
  match v with
  | .null => .ok none
  | .blob bytes =>
    if BinaryPart.isDocument bytes then .ok (some (.binary bytes)) else ofBytes bytes
  | v => ofBytes ((textOf? v).getD [])

/-- The outcome of a function on what a path names, given the value and the type of a part. -/
def outcome {α : Type} (f : JsonFunction) (value? : α → Option SqlValue) (type : α → String)
    (path : List Char) : Target α → Except EngineError SqlValue
  | .found x =>
    match f with
    | extract =>
      match value? x with
      | some v => .ok v
      | none => .error .malformedJson
    | typeOf => .ok (.ofString (type x))
  | .absent => .ok .null
  | .badPath => .error (.badPath (String.ofList path))
  | .malformed => .error .malformedJson

/-- The function of a document and a path. A null document gives null whatever the path is, and
malformed text fails whatever the path is. -/
def apply (f : JsonFunction) (doc path : SqlValue) : Except EngineError SqlValue := do
  match ← document doc, textOf? path with
  | none, _ | _, none => .ok .null
  | some d, some bytes =>
    let path := (lossyChars bytes.length bytes).takeWhile (· != '\x00')
    match d with
    | .text x => f.outcome SqlValue.ofStored? Stored.typeName path (Stored.parts.lookUp x path)
    | .binary b =>
      f.outcome SqlValue.ofBinary? BinaryPart.typeName path (BinaryPart.parts.lookUp b path)

end JsonFunction

end DocSelect
