import DocSelect.Selector.OfJson
import DocSelect.Sql.Predicate
/-!
# Predicates from selectors

Every selector compiles: each clause to one predicate, in order, a group to the group of the
conjunctions of its selectors.

* `Selector.predicates` are the predicates of the clauses.
* `Selector.toPredicate` is their conjunction.
* `Selector.elementPredicates` are the predicates of the selectors of a group.
-/

namespace DocSelect

mutual
/-- The predicate of a clause. -/
def Clause.toPredicate : Clause → Predicate
  | .equals path v => .compare path .eq v
  | .field path (.compare op v) => .compare path op v
  | .field path (.present b) => .present path b
  | .all selectors => .all (Clause.elementPredicates selectors)
  | .any selectors => .any (Clause.elementPredicates selectors)
  | .directive .exists path => .present path true
  | .directive .null path => .isNull path true
  | .directive .notNull path => .isNull path false
termination_by structural c => c
/-- The predicates of the clauses of a selector. -/
def Clause.predicates : List Clause → List Predicate
  | [] => []
  | c :: rest => Clause.toPredicate c :: Clause.predicates rest
termination_by structural cs => cs
/-- The predicates of the selectors of a group, each in parentheses. -/
def Clause.elementPredicates : List (List Clause) → List Predicate
  | [] => []
  | s :: rest => .all (Clause.predicates s) :: Clause.elementPredicates rest
termination_by structural ss => ss
end

namespace Selector

/-- The predicates of the clauses. -/
def predicates (s : Selector) : List Predicate := Clause.predicates s

/-- The predicates of the selectors of a group. -/
def elementPredicates (ss : List Selector) : List Predicate := Clause.elementPredicates ss

/-- The predicate of a selector. -/
def toPredicate (s : Selector) : Predicate := .conjunction s.predicates

/-- The predicate of a document, with literals. -/
def compile (d : Json) : Except SelectorError String :=
  (ofCollapsed d).map fun s => s.toPredicate.inline

/-- The predicate of a document, with placeholders. -/
def compileBound (d : Json) : Except SelectorError BoundPredicate :=
  (ofCollapsed d).map fun s => s.toPredicate.bound

theorem predicates_eq_map (s : Selector) : s.predicates = s.map Clause.toPredicate := by
  induction s with
  | nil => rfl
  | cons c rest ih => simpa [predicates, Clause.predicates] using ih

theorem elementPredicates_eq_map (ss : List Selector) :
    elementPredicates ss = ss.map fun s => Predicate.all s.predicates := by
  induction ss with
  | nil => rfl
  | cons s rest ih => simpa [elementPredicates, Clause.elementPredicates, predicates] using ih

end Selector

end DocSelect
