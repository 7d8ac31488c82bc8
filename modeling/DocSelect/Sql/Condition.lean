import DocSelect.Sql.ExprReader
import DocSelect.Sql.Filter
import DocSelect.Sql.Limits
import DocSelect.Sql.Predicate
/-!
# Conditions from predicates

The engine reads the text of a predicate as a condition: with literals in it, or with placeholders
for which the values are bound.

* `Predicate.condition` and `BoundPredicate.condition` are the two readings.
* `BoundPredicate.check` is the check that a condition is within the limits of the engine.
-/

namespace DocSelect

/-- The condition that a text with literals spells. -/
def Predicate.condition (p : Predicate) : Except EngineError Expr :=
  match Expr.ofText? p.inlineChars with
  | some e => .ok e
  | none => .error .malformedStatement

/-- The values that are bound for the parameters. -/
def BoundPredicate.values (b : BoundPredicate) : List SqlValue := b.params.map SqlValue.ofScalar

/-- The condition that a text with placeholders spells, with the values bound. -/
def BoundPredicate.condition (b : BoundPredicate) : Except EngineError Expr :=
  match Expr.ofText? b.sql.toList with
  | some e => .ok (e.bind b.values)
  | none => .error .malformedStatement

/-- Checks the limits on the condition that a text with placeholders spells. -/
def BoundPredicate.check (b : BoundPredicate) : Except EngineError Unit :=
  match Expr.ofText? b.sql.toList with
  | some e => (e.measure 0).map fun _ => ()
  | none => .ok ()

end DocSelect
