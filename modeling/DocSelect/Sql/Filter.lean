import DocSelect.Sql.Compare
import DocSelect.Sql.Expr
/-!
# Filters on rows

A filter keeps the rows of which a condition is true. The engine decides as early as it can: `AND`
and `OR` stop as soon as they are decided, a truth literal as one operand decides or disappears, and
parts of the condition that no row enters into are decided before any row is read. A part that is
not evaluated cannot fail.

* `Expr.holds` decides a condition for one row.
* `Expr.keep` are the rows that a condition keeps.
-/

namespace DocSelect.Expr

/-- Whether a value counts as text whatever it is. -/
def countsAsText : Expr → Bool
  | castText _ | column _ => true
  | _ => false

/-- The value of an expression, given the columns of a row. -/
def compute (row : String → SqlValue) : Expr → Except EngineError SqlValue
  | value v => .ok v
  | flag b => .ok (.ofBool b)
  | hole => .ok .null
  | column name => .ok (row name)
  | castText e => do
    let v ← compute row e
    .ok v.castText
  | call f a b => do
    let x ← compute row a
    let y ← compute row b
    f.apply x y
  | compare op a b => do
    let x ← compute row a
    let y ← compute row b
    let t ← op.apply (a.countsAsText || b.countsAsText) x y
    .ok (.ofTruth t)
  | isNull e expected => do
    let v ← compute row e
    .ok (.ofBool (decide (v = .null) == expected))
  | and a b => do
    let x ← compute row a
    let y ← compute row b
    .ok (.ofTruth (kleeneAnd x.truth y.truth))
  | or a b => do
    let x ← compute row a
    let y ← compute row b
    .ok (.ofTruth (kleeneOr x.truth y.truth))

/-- Whether a condition is true of a row. The second operand of a connective is evaluated only if
the first has not decided. -/
def holds (row : String → SqlValue) : Expr → Except EngineError Bool
  | and a b => do
    if ← holds row a then holds row b else .ok false
  | or a b => do
    if ← holds row a then .ok true else holds row b
  | e => do
    let v ← compute row e
    .ok (v.truth == some true)

/-- A conjunction without truth literals as operands. -/
def simpleAnd (a b : Expr) : Expr :=
  if a = flag true ∨ b = flag false then b
  else if b = flag true ∨ a = flag false then a
  else and a b

/-- A disjunction without truth literals as operands. -/
def simpleOr (a b : Expr) : Expr :=
  if a = flag true ∨ b = flag false then a
  else if b = flag true ∨ a = flag false then b
  else or a b

/-- The condition without truth literals as operands. -/
def simplify : Expr → Expr
  | and a b => simpleAnd (simplify a) (simplify b)
  | or a b => simpleOr (simplify a) (simplify b)
  | e => e

/-- The conditions that a condition joins by `AND`. -/
def conjuncts : Expr → List Expr
  | and a b => conjuncts a ++ conjuncts b
  | e => [e]

/-- Whether no column enters into an expression. -/
def isConstant : Expr → Bool
  | column _ => false
  | castText e => isConstant e
  | call _ a b | compare _ a b | and a b | or a b => isConstant a && isConstant b
  | isNull e _ => isConstant e
  | _ => true

/-- Whether a comparison occurs in an expression. -/
def uses (op : Comparison) : Expr → Bool
  | castText e | isNull e _ => uses op e
  | call _ a b | and a b | or a b => uses op a || uses op b
  | compare c a b => c == op || uses op a || uses op b
  | _ => false

/-- Whether all conditions are true of a row; the first that is not ends the evaluation. -/
def allHold (row : String → SqlValue) : List Expr → Except EngineError Bool
  | [] => .ok true
  | e :: rest => do
    if ← holds row e then allHold row rest else .ok false

/-- The rows of which all conditions are true, in order. -/
def keepAll {ρ : Type} (column : ρ → String → SqlValue) (es : List Expr) :
    List ρ → Except EngineError (List ρ)
  | [] => .ok []
  | r :: rest => do
    let kept ← allHold (column r) es
    let rs ← keepAll column es rest
    .ok (if kept then r :: rs else rs)

/-- The rows that a condition keeps, in order. Its constant parts come first: unless they are true,
no row is read. -/
def keep {ρ : Type} (column : ρ → String → SqlValue) (e : Expr) (rows : List ρ) :
    Except EngineError (List ρ) := do
  let es := e.conjuncts
  if ← allHold (fun _ => .null) ((es.filter isConstant).map simplify) then
    keepAll column ((es.filter fun e => !e.isConstant).map simplify) rows
  else .ok []

end DocSelect.Expr
