import DocSelect.Scalar
/-!
# Selectors

A selector is a list of clauses that must all hold of a document.

* `Clause` is a condition on one field, a group of selectors, or a directive on a field.
* `Clause.key` is the key under which a clause is written in a selector object.
* The functions of `Selector` add one clause each; they never look at the clauses already there,
  so a selector may hold several clauses with one key.
-/

namespace DocSelect

/-- The key of a group whose selectors must all hold. -/
def allKey : String := "$and"

/-- The key of a group of which one selector must hold. -/
def anyKey : String := "$or"

/-- The key of a test for presence. -/
def existsKey : String := "$exists"

/-- A test of one field that is written with the directive as key and the path as value. -/
inductive Directive
  /-- The field is present. -/
  | exists
  /-- The field is null or absent. -/
  | null
  /-- The field is present and not null. -/
  | notNull
  deriving DecidableEq

namespace Directive

/-- All directives. -/
def all : List Directive := [.exists, .null, .notNull]

/-- The key in a selector. -/
def key : Directive → String
  | .exists => existsKey
  | .null => "$null"
  | .notNull => "$notnull"

/-- The name of the directive as a variant in JSON text. -/
def variant : Directive → String
  | .exists => "Exists"
  | .null => "Null"
  | .notNull => "NotNull"

/-- The directive of a key. -/
def ofKey? (key : String) : Option Directive := all.find? fun d => d.key == key

@[simp] theorem ofKey?_key (d : Directive) : ofKey? d.key = some d := by cases d <;> decide

end Directive

/-- The test that a field condition spells out. -/
inductive FieldTest
  /-- A comparison with an operand. -/
  | compare (op : Comparison) (operand : Scalar)
  /-- Whether the field is present. -/
  | present (expected : Bool)
  deriving DecidableEq

namespace FieldTest

/-- The key of the test. -/
def key : FieldTest → String
  | .compare op _ => op.key
  | .present _ => existsKey

/-- The operand of the test. -/
def operand : FieldTest → Scalar
  | .compare _ v => v
  | .present b => .bool b

end FieldTest

/-- One clause of a selector. -/
inductive Clause
  /-- The field equals a value. -/
  | equals (path : String) (value : Scalar)
  /-- The field passes a test. -/
  | field (path : String) (test : FieldTest)
  /-- All the selectors hold. -/
  | all (selectors : List (List Clause))
  /-- One of the selectors holds. -/
  | any (selectors : List (List Clause))
  /-- The directive holds of the field. -/
  | directive (d : Directive) (path : String)

/-- A selector: clauses that must all hold, in order. -/
abbrev Selector := List Clause

namespace Clause

/-- The key under which the clause is written. -/
def key : Clause → String
  | .equals path _ => path
  | .field path _ => path
  | .all _ => allKey
  | .any _ => anyKey
  | .directive d _ => d.key

mutual
/-- Equality of clauses is decidable. -/
def decEq : (a b : Clause) → Decidable (a = b)
  | .equals p v, .equals q w =>
    if h : p = q ∧ v = w then isTrue (by rw [h.1, h.2]) else isFalse (by simpa using h)
  | .field p v, .field q w =>
    if h : p = q ∧ v = w then isTrue (by rw [h.1, h.2]) else isFalse (by simpa using h)
  | .directive p v, .directive q w =>
    if h : p = q ∧ v = w then isTrue (by rw [h.1, h.2]) else isFalse (by simpa using h)
  | .all a, .all b =>
    match decEqLists a b with
    | isTrue h => isTrue (by rw [h])
    | isFalse h => isFalse (by simpa using h)
  | .any a, .any b =>
    match decEqLists a b with
    | isTrue h => isTrue (by rw [h])
    | isFalse h => isFalse (by simpa using h)
  | .equals _ _, .field _ _ | .equals _ _, .all _ | .equals _ _, .any _
  | .equals _ _, .directive _ _ | .field _ _, .equals _ _ | .field _ _, .all _
  | .field _ _, .any _ | .field _ _, .directive _ _ | .all _, .equals _ _ | .all _, .field _ _
  | .all _, .any _ | .all _, .directive _ _ | .any _, .equals _ _ | .any _, .field _ _
  | .any _, .all _ | .any _, .directive _ _ | .directive _ _, .equals _ _
  | .directive _ _, .field _ _ | .directive _ _, .all _ | .directive _ _, .any _ =>
    isFalse (by simp)
termination_by structural a => a
/-- Equality of selectors is decidable. -/
def decEqList : (a b : List Clause) → Decidable (a = b)
  | [], [] => isTrue rfl
  | [], _ :: _ | _ :: _, [] => isFalse (by simp)
  | c :: cs, d :: ds =>
    match decEq c d, decEqList cs ds with
    | isTrue h, isTrue h' => isTrue (by rw [h, h'])
    | isFalse h, _ => isFalse (by simp [h])
    | _, isFalse h => isFalse (by simp [h])
termination_by structural a => a
/-- Equality of lists of selectors is decidable. -/
def decEqLists : (a b : List (List Clause)) → Decidable (a = b)
  | [], [] => isTrue rfl
  | [], _ :: _ | _ :: _, [] => isFalse (by simp)
  | c :: cs, d :: ds =>
    match decEqList c d, decEqLists cs ds with
    | isTrue h, isTrue h' => isTrue (by rw [h, h'])
    | isFalse h, _ => isFalse (by simp [h])
    | _, isFalse h => isFalse (by simp [h])
termination_by structural a => a
end

instance : DecidableEq Clause := decEq

/-- A clause is smaller than the group it is in. -/
theorem sizeOf_lt_of_mem {c : Clause} {s : List Clause} {selectors : List (List Clause)}
    (hc : c ∈ s) (hs : s ∈ selectors) : sizeOf c < sizeOf selectors :=
  Nat.lt_trans (List.sizeOf_lt_of_mem hc) (List.sizeOf_lt_of_mem hs)

/-- Induction over a clause: the clauses of each selector of a group satisfy what is to be shown. -/
@[elab_as_elim, induction_eliminator]
theorem induction {motive : Clause → Prop} (equals : ∀ path v, motive (equals path v))
    (field : ∀ path test, motive (field path test))
    (all : ∀ selectors, (∀ s ∈ selectors, ∀ c ∈ s, motive c) → motive (all selectors))
    (any : ∀ selectors, (∀ s ∈ selectors, ∀ c ∈ s, motive c) → motive (any selectors))
    (directive : ∀ d path, motive (directive d path)) (c : Clause) : motive c :=
  match c with
  | .equals path v => equals path v
  | .field path test => field path test
  | .all selectors => all selectors fun _ _ c _ => induction equals field all any directive c
  | .any selectors => any selectors fun _ _ c _ => induction equals field all any directive c
  | .directive d path => directive d path
decreasing_by
  all_goals
    have hlt := sizeOf_lt_of_mem ‹_ ∈ _› ‹_ ∈ selectors›
    simp
    omega

/-- What is put together from the clauses of each selector of a group. -/
theorem map_elements_congr {α β : Type} (combine : List α → β) {f g : Clause → α}
    {selectors : List (List Clause)} (h : ∀ s ∈ selectors, ∀ c ∈ s, f c = g c) :
    (selectors.map fun s => combine (s.map f)) = selectors.map fun s => combine (s.map g) :=
  List.map_congr_left fun s hs => congrArg combine (List.map_congr_left (h s hs))

end Clause

namespace Selector

/-- Adds a clause at the end. -/
def push (s : Selector) (c : Clause) : Selector := s ++ [c]

/-- The field equals a value. -/
def equals (s : Selector) (path : String) (v : Scalar) : Selector := s.push (.equals path v)

/-- The field compares with an operand. -/
def compare (s : Selector) (path : String) (op : Comparison) (v : Scalar) : Selector :=
  s.push (.field path (.compare op v))

/-- The field is present, or absent. -/
def present (s : Selector) (path : String) (expected : Bool) : Selector :=
  s.push (.field path (.present expected))

/-- The directive holds of the field. -/
def directive (s : Selector) (d : Directive) (path : String) : Selector :=
  s.push (.directive d path)

/-- All the selectors hold. -/
def allOf (s : Selector) (selectors : List Selector) : Selector := s.push (.all selectors)

/-- One of the selectors holds. -/
def anyOf (s : Selector) (selectors : List Selector) : Selector := s.push (.any selectors)

end Selector

end DocSelect
