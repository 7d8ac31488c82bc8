import DocSelect.Selector.Compile
import DocSelect.Sql.Expr
/-!
# The trees that predicates are built from

A predicate is text and values. The tree from which it is built says what it means: conditions on
single fields at the leaves, and groups of trees above them. Compiling a selector builds such a tree
and flattens it to a predicate.

* `Formula` : the trees, and `Formula.toPredicate` what is built from them;
* `Formula.truth` : the truth of a tree in three-valued logic;
* `Selector.truth` : the truth of a selector, clause by clause;
* `Selector.toPredicate_formula` : **compiling a selector flattens its tree**;
* `Selector.truth_formula` : **the tree of a selector has the truth of the selector**.
-/

namespace DocSelect

/-! ## Conditions on one field -/

/-- A condition on one field. -/
inductive FieldCondition
  /-- The field compares with an operand. -/
  | compare (path : String) (op : Comparison) (operand : Scalar)
  /-- The field is present, or absent. -/
  | present (path : String) (expected : Bool)
  /-- The field is null or absent, or neither. -/
  | isNull (path : String) (expected : Bool)
  deriving DecidableEq

namespace FieldCondition

/-- The predicate of the condition. -/
def toPredicate : FieldCondition → Predicate
  | compare path op operand => .compare path op operand
  | present path expected => .present path expected
  | isNull path expected => .isNull path expected

/-- The value of a function of the document at a path. -/
def valueAt (i : Interpretation) (f : JsonFunction) (path : String) : SqlValue :=
  i.call f (i.column valueColumn) (.ofString path)

/-- The truth of the condition. -/
def truth (i : Interpretation) : FieldCondition → Option Bool
  | compare path op operand => i.compare op (valueAt i .extract path) (.ofScalar operand)
  | present path expected => some (decide (valueAt i .typeOf path = .null) != expected)
  | isNull path expected => some (decide (valueAt i .extract path = .null) == expected)

end FieldCondition

/-! ## Three-valued logic over lists -/

/-- All hold; of no truths, all do. -/
def kleeneAll (ts : List (Option Bool)) : Option Bool := ts.foldr kleeneAnd (some true)

/-- One holds; of no truths, none does. -/
def kleeneAny (ts : List (Option Bool)) : Option Bool := ts.foldr kleeneOr (some false)

@[simp] theorem kleeneAll_nil : kleeneAll [] = some true := rfl

@[simp] theorem kleeneAll_cons (t : Option Bool) (ts : List (Option Bool)) :
    kleeneAll (t :: ts) = kleeneAnd t (kleeneAll ts) := rfl

@[simp] theorem kleeneAny_nil : kleeneAny [] = some false := rfl

@[simp] theorem kleeneAny_cons (t : Option Bool) (ts : List (Option Bool)) :
    kleeneAny (t :: ts) = kleeneOr t (kleeneAny ts) := rfl

/-- Truth is the unit of conjunction. -/
@[simp] theorem kleeneAnd_true (t : Option Bool) : kleeneAnd t (some true) = t := by
  rcases t with _ | _ | _ <;> rfl

@[simp] theorem kleeneOr_false (t : Option Bool) : kleeneOr t (some false) = t := by
  rcases t with _ | _ | _ <;> rfl

theorem kleeneAnd_assoc (a b c : Option Bool) :
    kleeneAnd (kleeneAnd a b) c = kleeneAnd a (kleeneAnd b c) := by
  rcases a with _ | _ | _ <;> rcases b with _ | _ | _ <;> rcases c with _ | _ | _ <;> rfl

theorem kleeneOr_assoc (a b c : Option Bool) :
    kleeneOr (kleeneOr a b) c = kleeneOr a (kleeneOr b c) := by
  rcases a with _ | _ | _ <;> rcases b with _ | _ | _ <;> rcases c with _ | _ | _ <;> rfl

/-- Two groups of conditions that all are to hold are one. -/
theorem kleeneAll_append (ts us : List (Option Bool)) :
    kleeneAll (ts ++ us) = kleeneAnd (kleeneAll ts) (kleeneAll us) := by
  induction ts with
  | nil =>
    show kleeneAll us = kleeneAnd (some true) (kleeneAll us)
    rcases kleeneAll us with _ | _ | _ <;> rfl
  | cons t ts ih => rw [List.cons_append, kleeneAll_cons, kleeneAll_cons, ih, kleeneAnd_assoc]

/-! ## Trees -/

/-- A tree of conditions. -/
inductive Formula
  /-- A condition on one field. -/
  | field (c : FieldCondition)
  /-- All the parts hold; in parentheses. -/
  | all (parts : List Formula)
  /-- One of the parts holds; in parentheses. -/
  | any (parts : List Formula)
  /-- All the parts hold; without parentheses. -/
  | conjunction (parts : List Formula)

namespace Formula

/-- Induction over a tree: the parts of a group satisfy what is to be shown. -/
@[elab_as_elim, induction_eliminator]
theorem induction {motive : Formula → Prop} (field : ∀ c, motive (field c))
    (all : ∀ parts, (∀ p ∈ parts, motive p) → motive (all parts))
    (any : ∀ parts, (∀ p ∈ parts, motive p) → motive (any parts))
    (conjunction : ∀ parts, (∀ p ∈ parts, motive p) → motive (conjunction parts))
    (p : Formula) : motive p :=
  match p with
  | .field c => field c
  | .all parts => all parts fun p _ => induction field all any conjunction p
  | .any parts => any parts fun p _ => induction field all any conjunction p
  | .conjunction parts => conjunction parts fun p _ => induction field all any conjunction p

/-- Induction over the parts of a group, each of which satisfies what is assumed: no parts, one
part, or one part before others, which is how a word is put between them. -/
@[elab_as_elim]
theorem parts_induction {P : Formula → Prop} {motive : List Formula → Prop} (none : motive [])
    (one : ∀ p, P p → motive [p])
    (more : ∀ p q rest, P p → motive (q :: rest) → motive (p :: q :: rest))
    (parts : List Formula) (h : ∀ p ∈ parts, P p) : motive parts := by
  induction parts with
  | nil => exact none
  | cons p rest ih =>
    have hp := h p List.mem_cons_self
    have hrest := ih fun p hp => h p (List.mem_cons_of_mem _ hp)
    cases rest with
    | nil => exact one p hp
    | cons q rest => exact more p q rest hp hrest

/-- The predicate that is built from the tree. -/
def toPredicate : Formula → Predicate
  | field c => c.toPredicate
  | all parts => .all (parts.map toPredicate)
  | any parts => .any (parts.map toPredicate)
  | conjunction parts => .conjunction (parts.map toPredicate)

/-- The truth of the tree. -/
def truth (i : Interpretation) : Formula → Option Bool
  | field c => c.truth i
  | all parts => kleeneAll (parts.map (truth i))
  | any parts => kleeneAny (parts.map (truth i))
  | conjunction parts => kleeneAll (parts.map (truth i))

end Formula

/-! ## Selectors as trees -/

namespace Clause

/-- The tree of a clause. The selectors of a group are groups of their clauses. -/
def formula : Clause → Formula
  | .equals path v => .field (.compare path .eq v)
  | .field path (.compare op v) => .field (.compare path op v)
  | .field path (.present b) => .field (.present path b)
  | .all selectors => .all (selectors.map fun s => .all (s.map formula))
  | .any selectors => .any (selectors.map fun s => .all (s.map formula))
  | .directive .exists path => .field (.present path true)
  | .directive .null path => .field (.isNull path true)
  | .directive .notNull path => .field (.isNull path false)
decreasing_by
  all_goals
    have hlt := sizeOf_lt_of_mem ‹_ ∈ _› ‹_ ∈ selectors›
    simp
    omega

/-- The truth of a clause: a group of selectors holds if all of them do, or one of them, and each
of them holds if all its clauses do. -/
def truth (i : Interpretation) : Clause → Option Bool
  | .equals path v => i.compare .eq (FieldCondition.valueAt i .extract path) (.ofScalar v)
  | .field path (.compare op v) =>
    i.compare op (FieldCondition.valueAt i .extract path) (.ofScalar v)
  | .field path (.present b) =>
    some (decide (FieldCondition.valueAt i .typeOf path = .null) != b)
  | .all selectors => kleeneAll (selectors.map fun s => kleeneAll (s.map (truth i)))
  | .any selectors => kleeneAny (selectors.map fun s => kleeneAll (s.map (truth i)))
  | .directive .exists path => some (decide (FieldCondition.valueAt i .typeOf path ≠ .null))
  | .directive .null path => some (decide (FieldCondition.valueAt i .extract path = .null))
  | .directive .notNull path => some (decide (FieldCondition.valueAt i .extract path ≠ .null))
decreasing_by
  all_goals
    have hlt := sizeOf_lt_of_mem ‹_ ∈ _› ‹_ ∈ selectors›
    simp
    omega

/-- The selectors of a group compile to the groups of the predicates of their clauses. -/
theorem elementPredicates_eq (selectors : List (List Clause)) :
    elementPredicates selectors = selectors.map fun s => .all (s.map toPredicate) := by
  have h := Selector.elementPredicates_eq_map selectors
  simp only [Selector.predicates_eq_map] at h
  exact h

/-- Compiling a clause flattens its tree. -/
theorem toPredicate_formula (c : Clause) : c.formula.toPredicate = c.toPredicate := by
  induction c with
  | equals path v => simp [formula, Formula.toPredicate, FieldCondition.toPredicate, toPredicate]
  | field path test =>
    cases test <;>
      simp [formula, Formula.toPredicate, FieldCondition.toPredicate, toPredicate]
  | all selectors ih =>
    simp only [formula, Formula.toPredicate, toPredicate, elementPredicates_eq, List.map_map,
      Function.comp_def]
    rw [map_elements_congr Predicate.all ih]
  | any selectors ih =>
    simp only [formula, Formula.toPredicate, toPredicate, elementPredicates_eq, List.map_map,
      Function.comp_def]
    rw [map_elements_congr Predicate.all ih]
  | directive d path =>
    cases d <;> simp [formula, Formula.toPredicate, FieldCondition.toPredicate, toPredicate]

/-- The tree of a clause has the truth of the clause. -/
theorem truth_formula (i : Interpretation) (c : Clause) : c.formula.truth i = c.truth i := by
  induction c with
  | equals path v => simp [formula, Formula.truth, FieldCondition.truth, truth]
  | field path test =>
    cases test <;> simp [formula, Formula.truth, FieldCondition.truth, truth]
  | all selectors ih =>
    simp only [formula, Formula.truth, truth, List.map_map, Function.comp_def]
    rw [map_elements_congr kleeneAll ih]
  | any selectors ih =>
    simp only [formula, Formula.truth, truth, List.map_map, Function.comp_def]
    rw [map_elements_congr kleeneAll ih]
  | directive d path =>
    cases d <;> simp [formula, Formula.truth, FieldCondition.truth, truth]

end Clause

namespace Selector

/-- The tree of a selector. -/
def formula (s : Selector) : Formula := .conjunction (s.map Clause.formula)

/-- The truth of a selector: all its clauses hold. -/
def truth (i : Interpretation) (s : Selector) : Option Bool := kleeneAll (s.map (Clause.truth i))

/-- **Compiling a selector flattens its tree.** -/
theorem toPredicate_formula (s : Selector) : s.formula.toPredicate = s.toPredicate := by
  rw [formula, Formula.toPredicate, toPredicate, predicates_eq_map, List.map_map]
  congr 1
  exact List.map_congr_left fun c _ => c.toPredicate_formula

/-- **The tree of a selector has the truth of the selector.** -/
theorem truth_formula (i : Interpretation) (s : Selector) : s.formula.truth i = s.truth i := by
  rw [formula, Formula.truth, truth, List.map_map]
  congr 1
  exact List.map_congr_left fun c _ => c.truth_formula i

end Selector

end DocSelect
