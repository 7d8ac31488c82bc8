import DocSelect.Json.Printer
/-!
# Errors of selectors

A `SelectorError` says what is wrong with a selector and quotes the part of the document that is
at fault, as its compact text.

* `SelectorError.kind` names the variant, `SelectorError.message` words the error.
* `SelectorError.fields` are the quoted parts with their names, in order.
-/

namespace DocSelect

/-- What is wrong with a selector. -/
inductive SelectorError
  /-- The root is no object. -/
  | invalidSelectorRoot (value : String)
  /-- A group directly inside a group. -/
  | nestedArrayNotAllowed (value : String)
  /-- An element of a group that is no object. -/
  | invalidSelectorElement (value : String)
  /-- A group that is no array. -/
  | expectedArray (combinator value : String)
  /-- An operand of the wrong type. -/
  | invalidOperand (directive value : String)
  /-- A condition that is neither a scalar nor an object with one entry. -/
  | invalidFieldCondition (path value : String)
  /-- An unknown operator. -/
  | invalidOperator (operator value : String)
  /-- A key that an object has twice. -/
  | duplicateKey (key : String)
  /-- Text that is no JSON. -/
  | json (reason : String)
  deriving DecidableEq

namespace SelectorError

/-- The name of the variant. -/
def kind : SelectorError → String
  | .invalidSelectorRoot _ => "InvalidSelectorRoot"
  | .nestedArrayNotAllowed _ => "NestedArrayNotAllowed"
  | .invalidSelectorElement _ => "InvalidSelectorElement"
  | .expectedArray _ _ => "ExpectedArray"
  | .invalidOperand _ _ => "InvalidOperand"
  | .invalidFieldCondition _ _ => "InvalidFieldCondition"
  | .invalidOperator _ _ => "InvalidOperator"
  | .duplicateKey _ => "DuplicateKey"
  | .json _ => "Json"

/-- The error in words. -/
def message : SelectorError → String
  | .invalidSelectorRoot value => "selector root must be an object, got " ++ value
  | .nestedArrayNotAllowed value => "nested array not allowed in logical selector: " ++ value
  | .invalidSelectorElement value => "logical selector element must be an object, got " ++ value
  | .expectedArray combinator value =>
    combinator ++ " expects an array of selectors, got " ++ value
  | .invalidOperand directive value => "invalid operand for " ++ directive ++ ": " ++ value
  | .invalidFieldCondition path value => "invalid condition for field " ++ path ++ ": " ++ value
  | .invalidOperator operator value => "invalid operator " ++ operator ++ " in " ++ value
  | .duplicateKey key => "duplicate key in selector object: " ++ key
  | .json reason => "malformed selector JSON: " ++ reason

/-- The fields of the variant, in order. -/
def fields : SelectorError → List (String × String)
  | .invalidSelectorRoot value => [("value", value)]
  | .nestedArrayNotAllowed value => [("value", value)]
  | .invalidSelectorElement value => [("value", value)]
  | .expectedArray combinator value => [("combinator", combinator), ("value", value)]
  | .invalidOperand directive value => [("directive", directive), ("value", value)]
  | .invalidFieldCondition path value => [("path", path), ("value", value)]
  | .invalidOperator operator value => [("operator", operator), ("value", value)]
  | .duplicateKey key => [("key", key)]
  | .json reason => [("reason", reason)]

end SelectorError

end DocSelect
