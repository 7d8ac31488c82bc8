import DocSelect.Typed.Record
import DocSelect.Selector.OfJson
import DocSelect.Selector.ToJson
/-!
# Selectors and their parts as JSON text

* A scalar is written as itself, a path as a string.
* A comparison or a directive is written by the name of its variant.
* An error of a selector is an object with the variant's name as key and the fields inside.
* A selector is written as the document that spells it.
-/

namespace DocSelect

open Json Json.Read Typed

namespace Scalar

/-- Reads a scalar. Nothing but a truth value, a number or a string is one. -/
def step (s : List Char) : Except Failure (Scalar × List Char) := do
  let (d, rest) ← value maxDepth s
  match ofJson? d with
  | some v => .ok (v, rest)
  | none => .error ⟨.noAlternative "ComparableValue", rest, .nowhere⟩

/-- Reads a text that holds a scalar. -/
def decode (text : String) : Except String Scalar := report text (whole step text)

/-- The text of a scalar. -/
def encode (v : Scalar) : String := v.toJson.render

end Scalar

/-- Reads a text that holds a path. -/
def decodePath (text : String) : Except String String :=
  report text (whole (Typed.string "a string") text)

/-- The text of a path. -/
def encodePath (path : String) : String := (Json.string path).render

/-- Reads a name without contents, bare or as the key of a null. -/
def unitVariant {α : Type} (all : List α) (name : α → String) (default : α) (s : List Char) :
    Except Failure (α × List Char) :=
  let find (n : String) : α := (all.find? fun x => name x == n).getD default
  variant (all.map name) (fun n => .ok (find n))
    (fun n s => do
      let (_, rest) ← unit s
      .ok (find n, rest)) s

/-- Reads a text that holds a comparison. -/
def Comparison.decode (text : String) : Except String Comparison :=
  report text (whole (unitVariant all variant .eq) text)

/-- The text of a comparison. -/
def Comparison.encode (op : Comparison) : String := (Json.string op.variant).render

/-- Reads a text that holds a directive. -/
def Directive.decode (text : String) : Except String Directive :=
  report text (whole (unitVariant all variant .exists) text)

/-- The text of a directive. -/
def Directive.encode (d : Directive) : String := (Json.string d.variant).render

namespace SelectorError

/-- One error of each kind, with empty fields. -/
def samples : List SelectorError :=
  [.invalidSelectorRoot "", .nestedArrayNotAllowed "", .invalidSelectorElement "",
    .expectedArray "" "", .invalidOperand "" "", .invalidFieldCondition "" "",
    .invalidOperator "" "", .duplicateKey "", .json ""]

/-- The same error with other fields. -/
def withFields (get : String → String) : SelectorError → SelectorError
  | .invalidSelectorRoot _ => .invalidSelectorRoot (get "value")
  | .nestedArrayNotAllowed _ => .nestedArrayNotAllowed (get "value")
  | .invalidSelectorElement _ => .invalidSelectorElement (get "value")
  | .expectedArray _ _ => .expectedArray (get "combinator") (get "value")
  | .invalidOperand _ _ => .invalidOperand (get "directive") (get "value")
  | .invalidFieldCondition _ _ => .invalidFieldCondition (get "path") (get "value")
  | .invalidOperator _ _ => .invalidOperator (get "operator") (get "value")
  | .duplicateKey _ => .duplicateKey (get "key")
  | .json _ => .json (get "reason")

/-- The fields of an error as a record. -/
def shape (e : SelectorError) : RecordShape where
  title := "struct variant SelectorError::" ++ e.kind
  fields := e.fields.map fun f => (f.1, .string)
  optional := false

/-- The text of a field. -/
def fieldText (values : List (String × FieldValue)) (name : String) : String :=
  match Keyed.find? name values with
  | some (.string s) => s
  | _ => ""

/-- Reads an error. Its name alone is not enough. -/
def step (s : List Char) : Except Failure (SelectorError × List Char) :=
  variant (samples.map kind)
    (fun _ => .error ⟨.invalidType .unitVariant "struct variant", [], .nowhere⟩)
    (fun name s => do
      let sample := (samples.find? fun e => e.kind == name).getD (.json "")
      let (values, rest) ← record sample.shape s
      .ok (sample.withFields (fieldText values), rest)) s

/-- Reads a text that holds an error. -/
def decode (text : String) : Except String SelectorError := report text (whole step text)

/-- The error as a document. -/
def toJson (e : SelectorError) : Json :=
  .object [(e.kind, .object (e.fields.map fun f => (f.1, .string f.2)))]

/-- The text of an error. -/
def encode (e : SelectorError) : String := e.toJson.render

end SelectorError

namespace Selector

/-- Reads a text that holds a selector. An error in the selector comes before one in what follows
the document, and its report has no position of its own. -/
def decode (text : String) : Except String Selector := do
  let (d, rest) ← report text (value maxDepth text.toList)
  let s ← (ofJson d).mapError fun e => restate e.message
  report text (finish rest)
  .ok s

/-- Reads a document as a selector, its repeated keys collapsed. -/
def decodeJson (d : Json) : Except String Selector :=
  (ofCollapsed d).mapError fun e => restate e.message

/-- The text of a selector. -/
def encode (s : Selector) : String := s.toJson.render

end Selector

end DocSelect
