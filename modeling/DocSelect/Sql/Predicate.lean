import DocSelect.Sql.Literal
/-!
# Predicates

A predicate is SQL text with values in it. It is rendered either with each value as a literal, or
with a placeholder for each value and the values beside the text.

* `Predicate.compare`, `Predicate.present` and `Predicate.isNull` are the conditions on one field;
  each is in parentheses.
* `Predicate.all`, `Predicate.any` and `Predicate.conjunction` combine predicates. The first two
  add parentheses; a conjunction adds none.
* `Predicate.inline` and `Predicate.bound` are the two renderings.

Adjacent pieces of text are always one piece, so that equal renderings come from equal predicates.
-/

namespace DocSelect

/-- A piece of a predicate. -/
inductive Fragment
  /-- SQL text. -/
  | sql (text : String)
  /-- A value. -/
  | value (v : Scalar)
  deriving DecidableEq

/-- SQL text with values in it. -/
structure Predicate where
  /-- The pieces, in order. -/
  fragments : List Fragment
  deriving DecidableEq

/-- A predicate with placeholders, and their values in order. -/
structure BoundPredicate where
  /-- The text. -/
  sql : String
  /-- The values of the placeholders. -/
  params : List Scalar
  deriving DecidableEq

/-- The column that holds the document. -/
def valueColumn : String := "value"

namespace Predicate

/-- Joins two lists of pieces; text that meets text becomes one piece. -/
def join : List Fragment → List Fragment → List Fragment
  | [], q => q
  | [.sql a], .sql b :: q => .sql (a ++ b) :: q
  | f :: p, q => f :: join p q

/-- One predicate behind another. -/
def append (p q : Predicate) : Predicate := ⟨join p.fragments q.fragments⟩

instance : Append Predicate := ⟨append⟩

/-- Plain text. -/
def text (s : String) : Predicate := ⟨[.sql s]⟩

/-- A function of the document and a path. -/
def extract (function : String) (path : String) (before after : String) : Predicate :=
  ⟨[.sql (before ++ function ++ "(" ++ valueColumn ++ ", "), .value (.string path),
    .sql (")" ++ after)]⟩

/-- The field compares with an operand. -/
def compare (path : String) (op : Comparison) (operand : Scalar) : Predicate :=
  extract "json_extract" path "( " (" " ++ op.operator ++ " ") ++
    ⟨[.value operand, .sql " )"]⟩

/-- The field is present, or absent. -/
def present (path : String) (expected : Bool) : Predicate :=
  extract "json_type" path "( " (if expected then " IS NOT NULL )" else " IS NULL )")

/-- The field is null or absent, or neither. -/
def isNull (path : String) (expected : Bool) : Predicate :=
  extract "json_extract" path "( " (if expected then " IS NULL )" else " IS NOT NULL )")

/-- Predicates with a word between them; another text stands for none. -/
def joined (word empty : String) : List Predicate → Predicate
  | [] => text empty
  | [p] => p
  | p :: rest => p ++ (text (" " ++ word ++ " ") ++ joined word empty rest)

/-- Parentheses around a predicate. -/
def grouped (p : Predicate) : Predicate := text "( " ++ (p ++ text " )")

/-- All the predicates hold, in parentheses. -/
def all (parts : List Predicate) : Predicate := grouped (joined "AND" "TRUE" parts)

/-- One of the predicates holds, in parentheses. -/
def any (parts : List Predicate) : Predicate := grouped (joined "OR" "FALSE" parts)

/-- All the predicates hold, without parentheses. -/
def conjunction (parts : List Predicate) : Predicate := joined "AND" "TRUE" parts

/-- The values, in order. -/
def params (p : Predicate) : List Scalar :=
  p.fragments.filterMap fun
    | .sql _ => none
    | .value v => some v

/-- The number of values. -/
def paramCount (p : Predicate) : Nat := p.params.length

/-- The characters of a piece with its value as a literal. -/
def Fragment.inlineChars : Fragment → List Char
  | .sql t => t.toList
  | .value v => Literal.chars v

/-- The characters of a piece with a placeholder for its value. -/
def Fragment.boundChars : Fragment → List Char
  | .sql t => t.toList
  | .value _ => ['?']

/-- The characters of the text with literals. -/
def inlineChars (p : Predicate) : List Char := p.fragments.flatMap Fragment.inlineChars

/-- The characters of the text with placeholders. -/
def boundChars (p : Predicate) : List Char := p.fragments.flatMap Fragment.boundChars

/-- The text with every value as a literal. -/
def inline (p : Predicate) : String := String.ofList p.inlineChars

/-- The text with placeholders, and the values. -/
def bound (p : Predicate) : BoundPredicate := ⟨String.ofList p.boundChars, p.params⟩

@[simp] theorem fragments_append (p q : Predicate) :
    (p ++ q).fragments = join p.fragments q.fragments := rfl

@[simp] theorem join_nil (q : List Fragment) : join [] q = q := by simp [join]

/-- The values of joined pieces are those of both. -/
@[simp] theorem params_append (p q : Predicate) : (p ++ q).params = p.params ++ q.params := by
  obtain ⟨p⟩ := p
  obtain ⟨q⟩ := q
  simp only [params, fragments_append]
  fun_induction join p q with
  | case1 => rfl
  | case2 => simp
  | case3 f p q _ ih => simp only [List.filterMap_cons, ih]; split <;> simp

end Predicate

end DocSelect
