import DocSelect.Sql.Expr
/-!
# Limits of conditions

The engine refuses a statement whose condition nests too deep or that has too many placeholders. It
notices this while it reads the statement, before it looks for tables or columns, and reports what
it comes upon first. Parentheses do not count, but each operand that is joined by `AND` or `OR`
makes a chain of them higher.

* `Expr.height` and `Expr.holes` are what is limited, `Expr.Fits` says that it is within the limits.
* `Expr.measure` is the check, and `Expr.measure_eq_ok_iff` says what it comes to.
-/

namespace DocSelect.Expr

/-- How many expressions may stand inside one another. -/
def maxHeight : Nat := 1000

/-- How many placeholders a statement may have. -/
def maxHoles : Nat := 32766

/-- The number of expressions that stand inside one another. -/
def height : Expr → Nat
  | castText e | isNull e _ => e.height + 1
  | call _ a b | compare _ a b | and a b | or a b => max a.height b.height + 1
  | _ => 1

/-- The number of placeholders. -/
def holes : Expr → Nat
  | hole => 1
  | castText e | isNull e _ => e.holes
  | call _ a b | compare _ a b | and a b | or a b => a.holes + b.holes
  | _ => 0

/-- The limits are kept. -/
def Fits (e : Expr) : Prop := e.height ≤ maxHeight ∧ e.holes ≤ maxHoles

instance (e : Expr) : Decidable e.Fits := inferInstanceAs (Decidable (_ ∧ _))

/-- The placeholders up to the end of an expression of some height, if it may be as high. -/
def withinHeight (h n : Nat) : Except EngineError Nat :=
  if h ≤ maxHeight then .ok n else .error .tooDeep

/-- Reads an expression behind `n` placeholders, its operands first, and counts the placeholders up
to its end. -/
def measure : Expr → Nat → Except EngineError Nat
  | hole, n => if n < maxHoles then .ok (n + 1) else .error .tooManyPlaceholders
  | castText a, n | isNull a _, n => a.measure n >>= withinHeight (a.height + 1)
  | call _ a b, n | compare _ a b, n | and a b, n | or a b, n =>
    a.measure n >>= b.measure >>= withinHeight (max a.height b.height + 1)
  | _, n => .ok n

theorem bind_withinHeight_iff {x : Except EngineError Nat} {h m : Nat} :
    x >>= withinHeight h = .ok m ↔ x = .ok m ∧ h ≤ maxHeight := by
  cases x with
  | error e =>
    show Except.error e = .ok m ↔ _
    simp
  | ok n =>
    show withinHeight h n = .ok m ↔ _
    unfold withinHeight
    by_cases hfits : h ≤ maxHeight <;> simp [hfits]

/-- Two operands are measured one after the other. -/
theorem bind_measure_iff {a b : Expr} {n m : Nat}
    (ha : ∀ k, a.measure n = .ok k ↔ k = n + a.holes ∧ k ≤ maxHoles ∧ a.height ≤ maxHeight)
    (hb : ∀ k ≤ maxHoles,
      b.measure k = .ok m ↔ m = k + b.holes ∧ m ≤ maxHoles ∧ b.height ≤ maxHeight) :
    a.measure n >>= b.measure = .ok m ↔
      m = n + (a.holes + b.holes) ∧ m ≤ maxHoles ∧ max a.height b.height ≤ maxHeight := by
  constructor
  · intro hm
    cases hk : a.measure n with
    | error e =>
      rw [hk] at hm
      cases hm
    | ok k =>
      rw [hk] at hm
      obtain ⟨hcount, hlimit, hheight⟩ := (ha k).1 hk
      obtain ⟨hcount', hlimit', hheight'⟩ := (hb k hlimit).1 hm
      exact ⟨by omega, hlimit', Nat.max_le.2 ⟨hheight, hheight'⟩⟩
  · rintro ⟨hcount, hlimit, hheight⟩
    rw [(ha (n + a.holes)).2 ⟨rfl, by omega, by omega⟩]
    exact (hb (n + a.holes) (by omega)).2 ⟨by omega, hlimit, by omega⟩

/-- **The check passes if the limits are kept**, counting the placeholders before the expression. -/
theorem measure_eq_ok_iff {e : Expr} {n m : Nat} (hn : n ≤ maxHoles) :
    e.measure n = .ok m ↔ m = n + e.holes ∧ m ≤ maxHoles ∧ e.height ≤ maxHeight := by
  have hone : 1 ≤ maxHeight := by decide
  induction e generalizing n m with
  | hole =>
    unfold measure holes height
    by_cases hlt : n < maxHoles
    · rw [if_pos hlt, Except.ok.injEq]
      omega
    · rw [if_neg hlt]
      simp only [reduceCtorEq, false_iff]
      omega
  | value | flag | column =>
    unfold measure holes height
    rw [Except.ok.injEq]
    omega
  | castText a ih | isNull a _ ih =>
    rw [measure, bind_withinHeight_iff, holes, height]
    constructor
    · rintro ⟨ha, hheight⟩
      obtain ⟨hcount, hlimit, -⟩ := (ih hn).1 ha
      exact ⟨hcount, hlimit, hheight⟩
    · rintro ⟨hcount, hlimit, hheight⟩
      exact ⟨(ih hn).2 ⟨hcount, hlimit, by omega⟩, hheight⟩
  | call _ a b iha ihb | compare _ a b iha ihb | and a b iha ihb | or a b iha ihb =>
    rw [measure, bind_withinHeight_iff, bind_measure_iff (fun k => iha hn) (fun k hk => ihb hk),
      holes, height]
    omega

end DocSelect.Expr
