import DocSelect.Json.Printer
import DocSelect.Numeric.FloatText
/-!
# Documents of plain values

The document of a value that was never text. A binary number without JSON text has none, and
neither have bytes.

* `Json.ofFloat` is the document of a binary number.
* `NativeError.message` words the refusals.
-/

namespace DocSelect

/-- Why a value has no document. -/
inductive NativeError
  /-- An infinity, or no number. -/
  | nonFinite (x : FloatValue)
  /-- A sequence of bytes. -/
  | bytes
  deriving DecidableEq

/-- The refusal in words. -/
def NativeError.message : NativeError → String
  | .nonFinite x => "non-finite number " ++ String.ofList x.plainText
  | .bytes => "invalid type: byte array, expected a JSON value"

/-- The document of a binary number. -/
def Json.ofFloat : FloatValue → Except NativeError Json
  | .finite x => .ok (.number (.float x))
  | x => .error (.nonFinite x)

/-- The document of an integer in range. -/
def Json.ofInt? (n : Int) : Option Json := (Whole.ofInt? n).map fun w => .number (.whole w)

end DocSelect
