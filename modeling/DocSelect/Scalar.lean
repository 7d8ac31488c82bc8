import DocSelect.Json.Printer
import DocSelect.Numeric.FloatText
/-!
# Scalars and comparisons

The values that a selector compares with, and the ways of comparing.

* `Scalar` is a truth value, a number or a string: what a document has at its leaves, null apart.
* `Comparison` names the nine comparisons, with their keys in selectors and their operators in
  SQL text.
-/

namespace DocSelect

/-- A value that a selector compares with. -/
inductive Scalar
  /-- A truth value. -/
  | bool (b : Bool)
  /-- A number. -/
  | number (n : Number)
  /-- A string. -/
  | string (s : String)
  deriving DecidableEq

namespace Scalar

instance : Inhabited Scalar := ⟨.bool false⟩

/-- The scalar of a document, if it is one. -/
def ofJson? : Json → Option Scalar
  | .bool b => some (.bool b)
  | .number n => some (.number n)
  | .string s => some (.string s)
  | _ => none

/-- The scalar as a document. -/
def toJson : Scalar → Json
  | .bool b => .bool b
  | .number n => .number n
  | .string s => .string s

@[simp] theorem ofJson?_toJson (v : Scalar) : ofJson? v.toJson = some v := by cases v <;> rfl

theorem toJson_of_ofJson? {d : Json} {v : Scalar} (h : ofJson? d = some v) : v.toJson = d := by
  cases d <;> simp [ofJson?] at h <;> subst h <;> rfl

/-- The scalar of a binary number. Only finite numbers have JSON text: the others become the
integer zero. -/
def ofFloat : FloatValue → Scalar
  | .finite x => .number (.float x)
  | _ => .number .zero

/-- The scalar of an integer in the range of JSON integers. -/
def ofInt? (n : Int) : Option Scalar := (Whole.ofInt? n).map fun w => .number (.whole w)

/-- The scalar as JSON text. -/
def render (v : Scalar) : String := v.toJson.render

end Scalar

/-- A way of comparing a field with an operand. -/
inductive Comparison
  /-- Equal. -/
  | eq
  /-- Less. -/
  | lt
  /-- Less or equal. -/
  | lte
  /-- Greater. -/
  | gt
  /-- Greater or equal. -/
  | gte
  /-- Different. -/
  | ne
  /-- Matches a pattern with wildcards, letters of either case. -/
  | like
  /-- Matches a pattern with wildcards and sets. -/
  | glob
  /-- Contains a match of a regular expression. -/
  | regexp
  deriving DecidableEq

namespace Comparison

/-- All comparisons, in the order in which they are listed. -/
def all : List Comparison := [eq, lt, lte, gt, gte, ne, like, glob, regexp]

/-- The key in a selector. -/
def key : Comparison → String
  | eq => "$eq"
  | lt => "$lt"
  | lte => "$lte"
  | gt => "$gt"
  | gte => "$gte"
  | ne => "$ne"
  | like => "$like"
  | glob => "$glob"
  | regexp => "$regexp"

/-- The operator in SQL text. -/
def operator : Comparison → String
  | eq => "="
  | lt => "<"
  | lte => "<="
  | gt => ">"
  | gte => ">="
  | ne => "<>"
  | like => "LIKE"
  | glob => "GLOB"
  | regexp => "REGEXP"

/-- The name of the comparison as a variant in JSON text. -/
def variant : Comparison → String
  | eq => "Eq"
  | lt => "Lt"
  | lte => "Lte"
  | gt => "Gt"
  | gte => "Gte"
  | ne => "Ne"
  | like => "Like"
  | glob => "Glob"
  | regexp => "Regexp"

/-- The comparison of a key. -/
def ofKey? (key : String) : Option Comparison := all.find? fun op => op.key == key

@[simp] theorem ofKey?_key (op : Comparison) : ofKey? op.key = some op := by
  cases op <;> decide

theorem mem_all (op : Comparison) : op ∈ all := by cases op <;> decide

end Comparison

end DocSelect
