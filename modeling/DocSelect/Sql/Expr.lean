import DocSelect.Sql.JsonFunction
import DocSelect.Scalar
/-!
# Expressions of SQL text

An expression is a value, a function of the stored document, a comparison, or a combination by
`AND` and `OR`. Its value is found in three-valued logic: a comparison with null is neither true nor
false.

* `Expr.eval` is the value under any `Interpretation` of columns, functions and comparisons.
* `Expr.bind` puts values for the placeholders.
* `kleeneAnd` and `kleeneOr` are the connectives of three-valued logic.
-/

namespace DocSelect

/-- An expression. -/
inductive Expr
  /-- A literal. -/
  | value (v : SqlValue)
  /-- A truth literal. -/
  | flag (b : Bool)
  /-- A placeholder. -/
  | hole
  /-- A column. -/
  | column (name : String)
  /-- A value as text. -/
  | castText (e : Expr)
  /-- A function of two arguments. -/
  | call (f : JsonFunction) (a b : Expr)
  /-- A comparison. -/
  | compare (op : Comparison) (a b : Expr)
  /-- Whether a value is null, or is not null. -/
  | isNull (e : Expr) (expected : Bool)
  /-- Both hold. -/
  | and (a b : Expr)
  /-- One holds. -/
  | or (a b : Expr)
  deriving DecidableEq

/-- Conjunction in three-valued logic; none is unknown. -/
def kleeneAnd : Option Bool → Option Bool → Option Bool
  | some false, _ | _, some false => some false
  | some true, some true => some true
  | _, _ => none

/-- Disjunction in three-valued logic; none is unknown. -/
def kleeneOr : Option Bool → Option Bool → Option Bool
  | some true, _ | _, some true => some true
  | some false, some false => some false
  | _, _ => none

namespace SqlValue

/-- Whether the number at the start of a text is other than zero. -/
def startsNonzero (bytes : List UInt8) : Bool :=
  let s := bytes.dropWhile fun b => b == 32 || (9 ≤ b.toNat && b.toNat ≤ 13)
  let s := match s with
    | b :: rest => if b = 43 ∨ b = 45 then rest else s
    | [] => s
  (s.takeWhile fun b => b == 46 || (48 ≤ b.toNat && b.toNat ≤ 57)).any fun b =>
    49 ≤ b.toNat && b.toNat ≤ 57

/-- The truth of a value: null is unknown, zero is false. -/
def truth : SqlValue → Option Bool
  | .null => none
  | .integer n => some (n != 0)
  | .real (.finite x) => some (!x.isZero)
  | .real (.infinite _) => some true
  | .text bytes => some (startsNonzero bytes)
  | .blob bytes => some (startsNonzero bytes)

/-- The value of a truth. -/
def ofTruth : Option Bool → SqlValue
  | some b => ofBool b
  | none => .null

@[simp] theorem truth_ofBool (b : Bool) : truth (ofBool b) = some b := by cases b <;> rfl

@[simp] theorem truth_ofTruth (t : Option Bool) : truth (ofTruth t) = t := by
  cases t with
  | none => rfl
  | some b => simp [ofTruth]

/-- A value as text; null stays null. -/
def castText (v : SqlValue) : SqlValue :=
  match JsonFunction.textOf? v with
  | some bytes => .text bytes
  | none => .null

end SqlValue

/-- A meaning of columns, functions and comparisons. -/
structure Interpretation where
  /-- The value of a column. -/
  column : String → SqlValue
  /-- The value of a function. -/
  call : JsonFunction → SqlValue → SqlValue → SqlValue
  /-- The truth of a comparison. -/
  compare : Comparison → SqlValue → SqlValue → Option Bool

namespace Expr

/-- The value of an expression. -/
def eval (i : Interpretation) : Expr → SqlValue
  | value v => v
  | flag b => .ofBool b
  | hole => .null
  | column name => i.column name
  | castText e => (eval i e).castText
  | call f a b => i.call f (eval i a) (eval i b)
  | compare op a b => .ofTruth (i.compare op (eval i a) (eval i b))
  | isNull e expected => .ofBool (decide (eval i e = .null) == expected)
  | and a b => .ofTruth (kleeneAnd (eval i a).truth (eval i b).truth)
  | or a b => .ofTruth (kleeneOr (eval i a).truth (eval i b).truth)

/-- The truth of an expression. -/
def truth (i : Interpretation) (e : Expr) : Option Bool := (e.eval i).truth

/-- Puts values for the placeholders, from left to right, and gives the values left over. A
placeholder without a value is null. -/
def fill : Expr → List SqlValue → Expr × List SqlValue
  | hole, [] => (value .null, [])
  | hole, v :: vs => (value v, vs)
  | castText e, vs =>
    let (e, vs) := fill e vs
    (castText e, vs)
  | call f a b, vs =>
    let (a, vs) := fill a vs
    let (b, vs) := fill b vs
    (call f a b, vs)
  | compare op a b, vs =>
    let (a, vs) := fill a vs
    let (b, vs) := fill b vs
    (compare op a b, vs)
  | isNull e expected, vs =>
    let (e, vs) := fill e vs
    (isNull e expected, vs)
  | and a b, vs =>
    let (a, vs) := fill a vs
    let (b, vs) := fill b vs
    (and a b, vs)
  | or a b, vs =>
    let (a, vs) := fill a vs
    let (b, vs) := fill b vs
    (or a b, vs)
  | e, vs => (e, vs)

/-- Puts values for the placeholders, from left to right. -/
def bind (e : Expr) (vs : List SqlValue) : Expr := (e.fill vs).1

@[simp] theorem truth_and (i : Interpretation) (a b : Expr) :
    (and a b).truth i = kleeneAnd (a.truth i) (b.truth i) := by simp [truth, eval]

@[simp] theorem truth_or (i : Interpretation) (a b : Expr) :
    (or a b).truth i = kleeneOr (a.truth i) (b.truth i) := by simp [truth, eval]

@[simp] theorem truth_flag (i : Interpretation) (b : Bool) : (flag b).truth i = some b := by
  simp [truth, eval]

end Expr

end DocSelect
