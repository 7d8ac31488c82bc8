import DocSelect.Proofs.Formula
import Mathlib.Data.List.Basic
/-!
# The values of a predicate

The values in a predicate are those of the conditions of its tree, from left to right: of each
condition the path, and the operand behind it if there is one. They are the parameters of the text
with placeholders.

* `Formula.values`, `Selector.values` : the values of a tree and of a selector;
* `Formula.params_toPredicate` : the parameters of a tree are its values;
* `Selector.params_toPredicate` : **the parameters of a selector are its paths and operands, in
  order**.
-/

namespace DocSelect

/-- The path of a condition, and its operand. -/
def FieldCondition.values : FieldCondition → List Scalar
  | compare path _ operand => [.string path, operand]
  | present path _ => [.string path]
  | isNull path _ => [.string path]

/-- The values of a tree, from left to right. -/
def Formula.values : Formula → List Scalar
  | field c => c.values
  | all parts => parts.flatMap values
  | any parts => parts.flatMap values
  | conjunction parts => parts.flatMap values

/-- The paths and operands of a clause, from left to right. -/
def Clause.values : Clause → List Scalar
  | .equals path v => [.string path, v]
  | .field path (.compare _ v) => [.string path, v]
  | .field path (.present _) => [.string path]
  | .all selectors => selectors.flatMap fun s => s.flatMap values
  | .any selectors => selectors.flatMap fun s => s.flatMap values
  | .directive _ path => [.string path]
decreasing_by
  all_goals
    have hlt := sizeOf_lt_of_mem ‹_ ∈ _› ‹_ ∈ selectors›
    simp
    omega

/-- The paths and operands of a selector, from left to right. -/
def Selector.values (s : Selector) : List Scalar := s.flatMap Clause.values

/-! ## The parameters are the values -/

namespace Predicate

@[simp] theorem params_text (s : String) : (text s).params = [] := rfl

/-- The values of joined predicates are those of each of them, in order. -/
theorem params_joined (word empty : String) (parts : List Predicate) :
    (joined word empty parts).params = parts.flatMap params := by
  induction parts with
  | nil => rfl
  | cons p rest ih =>
    cases rest with
    | nil => simp [joined]
    | cons q rest =>
      rw [joined, params_append, params_append, params_text, ih, List.nil_append]
      · rfl
      · exact List.cons_ne_nil q rest

@[simp] theorem params_grouped (p : Predicate) : (grouped p).params = p.params := by
  simp [grouped]

end Predicate

/-- The parameters of a tree are its values. -/
theorem Formula.params_toPredicate (p : Formula) : p.toPredicate.params = p.values := by
  have hjoined {word empty : String} {parts : List Formula}
      (ih : ∀ p ∈ parts, p.toPredicate.params = p.values) :
      (Predicate.joined word empty (parts.map toPredicate)).params = parts.flatMap values := by
    rw [Predicate.params_joined, List.flatMap_map]
    exact List.flatMap_congr ih
  induction p with
  | field c =>
    rw [toPredicate, values]
    cases c <;> rfl
  | all parts ih =>
    rw [toPredicate, values, Predicate.all, Predicate.params_grouped]
    exact hjoined ih
  | any parts ih =>
    rw [toPredicate, values, Predicate.any, Predicate.params_grouped]
    exact hjoined ih
  | conjunction parts ih =>
    rw [toPredicate, values]
    exact hjoined ih

/-- The values of the tree of a clause are those of the clause. -/
theorem Clause.values_formula (c : Clause) : c.formula.values = c.values := by
  have hgroup {selectors : List (List Clause)}
      (ih : ∀ s ∈ selectors, ∀ c ∈ s, c.formula.values = c.values) :
      (selectors.map fun s => Formula.all (s.map formula)).flatMap Formula.values =
        selectors.flatMap fun s => s.flatMap values := by
    rw [List.flatMap_map]
    refine List.flatMap_congr fun s hs => ?_
    rw [Formula.values, List.flatMap_map]
    exact List.flatMap_congr (ih s hs)
  induction c with
  | equals path v => simp [formula, Formula.values, FieldCondition.values, values]
  | field path test => cases test <;> simp [formula, Formula.values, FieldCondition.values, values]
  | all selectors ih =>
    rw [formula, Formula.values, values]
    exact hgroup ih
  | any selectors ih =>
    rw [formula, Formula.values, values]
    exact hgroup ih
  | directive d path =>
    cases d <;> simp [formula, Formula.values, FieldCondition.values, values]

/-- The values of the tree of a selector are those of the selector. -/
theorem Selector.values_formula (s : Selector) : s.formula.values = s.values := by
  rw [formula, Formula.values, List.flatMap_map]
  exact List.flatMap_congr fun c _ => c.values_formula

/-- **The parameters of a selector are its paths and operands, in order.** -/
theorem Selector.params_toPredicate (s : Selector) : s.toPredicate.params = s.values := by
  rw [← s.toPredicate_formula, s.formula.params_toPredicate, s.values_formula]

end DocSelect
