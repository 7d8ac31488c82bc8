import DocSelect.Proofs.Meaning
import DocSelect.Proofs.SelectorReading
/-!
# Conditions on rows

A condition of a selector is put together by `AND` and `OR` from truth literals, which stand for
empty groups, and conditions on fields. The engine takes the literals out before it reads a row. If
they decide the condition, no row is read at all; if not, a condition on a field is the first thing
that is looked at of each row, so that a row whose document is malformed cannot be passed over.

* `Expr.settled`, `Selector.settled` : the truth that the literals alone decide;
* `Formula.fields`, `Expr.Composed` : the conditions on fields, and expressions put together from
  them in this way;
* `Selector.bound_condition` : the condition of a selector is one of them, with the selector's own
  settled truth;
* `Expr.Composed.simplify_of_settled`, `Expr.Composed.holds_of_refused` : what is left of a
  condition is a literal, or it fails **on every malformed row**;
* `Expr.Composed.keep_of_settled_true`, `Expr.Composed.keep_of_refused` : so all rows are kept, or
  the filter fails.
-/

namespace DocSelect

/-! ## What truth literals decide -/

/-- The truth that the truth literals of an expression decide, whatever else is in it. -/
def Expr.settled : Expr → Option Bool
  | flag b => some b
  | and a b => kleeneAnd a.settled b.settled
  | or a b => kleeneOr a.settled b.settled
  | _ => none

/-- The truth that the empty groups of a tree decide, whatever its conditions on fields are. -/
def Formula.settled : Formula → Option Bool
  | field _ => none
  | all parts => kleeneAll (parts.map settled)
  | any parts => kleeneAny (parts.map settled)
  | conjunction parts => kleeneAll (parts.map settled)

/-- The conditions on fields in a tree. -/
def Formula.fields : Formula → List FieldCondition
  | field c => [c]
  | all parts | any parts | conjunction parts => parts.flatMap fields

/-- The truth that the empty groups of a selector decide, whatever its conditions on fields are. -/
def Selector.settled (s : Selector) : Option Bool := s.formula.settled

theorem Expr.settled_make (c : Connective) (a b : Expr) :
    (c.make a b).settled = c.apply a.settled b.settled := by
  cases c <;> rfl

section

variable {read : Scalar → Expr}

/-- The truth literals of joined conditions stand for the empty groups of the parts. -/
theorem Connective.settled_joined (c : Connective) {parts : List Formula}
    (h : ∀ p ∈ parts, (p.expr read).settled = p.settled) :
    (c.joined (parts.map (Formula.expr read))).settled =
      (parts.map Formula.settled).foldr c.apply (some c.unit) := by
  refine Formula.parts_induction rfl (fun p hp => ?_) (fun p q rest hp ih => ?_) parts h
  · rw [List.map_cons, List.map_nil, List.map_cons, List.map_nil, List.foldr_cons,
      List.foldr_nil, c.apply_unit]
    exact hp
  · show (c.make (p.expr read) (c.joined _)).settled = c.apply p.settled _
    rw [Expr.settled_make, hp, ih]

/-- The truth literals of the expression of a tree stand for its empty groups. -/
theorem Formula.settled_expr (p : Formula) : (p.expr read).settled = p.settled := by
  induction p with
  | field c =>
    rw [expr, settled]
    cases c <;> rfl
  | all parts ih =>
    rw [expr, settled]
    exact Connective.and.settled_joined ih
  | any parts ih =>
    rw [expr, settled]
    exact Connective.or.settled_joined ih
  | conjunction parts ih =>
    rw [expr, settled]
    exact Connective.and.settled_joined ih

end

theorem kleeneAll_eq_true_iff {ts : List (Option Bool)} :
    kleeneAll ts = some true ↔ ∀ t ∈ ts, t = some true := by
  induction ts with
  | nil => simp
  | cons t ts ih =>
    rw [kleeneAll_cons, List.forall_mem_cons, ← ih]
    rcases t with _ | _ | _ <;> rcases kleeneAll ts with _ | _ | _ <;> simp [kleeneAnd]

theorem kleeneAll_eq_false_iff {ts : List (Option Bool)} :
    kleeneAll ts = some false ↔ ∃ t ∈ ts, t = some false := by
  induction ts with
  | nil => simp
  | cons t ts ih =>
    rw [kleeneAll_cons, List.exists_mem_cons_iff, ← ih]
    rcases t with _ | _ | _ <;> rcases kleeneAll ts with _ | _ | _ <;> simp [kleeneAnd]

theorem exists_none_of_kleeneAll {ts : List (Option Bool)} (h : kleeneAll ts = none) :
    ∃ t ∈ ts, t = none := by
  by_contra hsome
  by_cases hfalse : ∃ t ∈ ts, t = some false
  · rw [kleeneAll_eq_false_iff.2 hfalse] at h
    cases h
  · have htrue : ∀ t ∈ ts, t = some true := by
      intro t ht
      rcases t with _ | _ | _
      · exact absurd ⟨_, ht, rfl⟩ hsome
      · exact absurd ⟨_, ht, rfl⟩ hfalse
      · rfl
    rw [kleeneAll_eq_true_iff.2 htrue] at h
    cases h

namespace Expr

/-! ## Expressions put together from conditions -/

/-- The expression is put together from truth literals and some conditions on fields. -/
inductive Composed (fields : List FieldCondition) : Expr → Prop
  /-- A truth literal. -/
  | flag (b : Bool) : Composed fields (flag b)
  /-- A condition on a field. -/
  | field {c : FieldCondition} (hc : c ∈ fields) : Composed fields (c.expr boundFor)
  /-- Two of them, joined. -/
  | make (c : Connective) {a b : Expr} (ha : Composed fields a) (hb : Composed fields b) :
    Composed fields (c.make a b)

variable {fields : List FieldCondition}

theorem composed_make_iff {c : Connective} {a b : Expr} :
    Composed fields (c.make a b) ↔ Composed fields a ∧ Composed fields b := by
  refine ⟨fun h => ?_, fun h => .make c h.1 h.2⟩
  generalize he : c.make a b = e at h
  cases h with
  | flag b => cases c <;> cases he
  | @field f hf => cases c <;> cases f <;> cases he
  | make c' ha hb =>
    cases c <;> cases c' <;> cases he <;> exact ⟨ha, hb⟩

/-- Grouping does not matter. -/
theorem Regroups.composed {e f : Expr} (h : Regroups e f) (hf : Composed fields f) :
    Composed fields e := by
  induction h with
  | refl e => exact hf
  | trans _ _ ih ih' => exact ih (ih' hf)
  | make c _ _ iha ihb =>
    rw [composed_make_iff] at hf ⊢
    exact ⟨iha hf.1, ihb hf.2⟩
  | assoc c x y z =>
    rw [composed_make_iff, composed_make_iff] at hf ⊢
    exact ⟨⟨hf.1, hf.2.1⟩, hf.2.2⟩

theorem Regroups.settled_eq {e f : Expr} (h : Regroups e f) : e.settled = f.settled := by
  induction h with
  | refl e => rfl
  | trans _ _ ih ih' => exact ih.trans ih'
  | make c _ _ iha ihb => rw [settled_make, settled_make, iha, ihb]
  | assoc c x y z => rw [settled_make, settled_make, settled_make, settled_make, c.apply_assoc]

/-- Binding values goes through any grouping. -/
theorem Regroups.fill {e f : Expr} (h : Regroups e f) (vs : List SqlValue) :
    (e.fill vs).2 = (f.fill vs).2 ∧ Regroups (e.fill vs).1 (f.fill vs).1 := by
  induction h generalizing vs with
  | refl e => exact ⟨rfl, .refl _⟩
  | trans _ _ ih ih' => exact ⟨(ih vs).1.trans (ih' vs).1, (ih vs).2.trans (ih' vs).2⟩
  | @make a a' b b' c _ _ iha ihb =>
    obtain ⟨hrest, ha⟩ := iha vs
    rw [c.fill_make, c.fill_make, ← hrest]
    exact ⟨(ihb _).1, ha.make c (ihb _).2⟩
  | assoc c x y z =>
    rw [c.fill_make, c.fill_make, c.fill_make, c.fill_make]
    exact ⟨rfl, .assoc c _ _ _⟩

end Expr

/-! ## The condition of a selector -/

theorem Connective.composed_joined (c : Connective) {fields : List FieldCondition}
    {parts : List Formula} (h : ∀ p ∈ parts, (p.expr Expr.boundFor).Composed fields) :
    (c.joined (parts.map (Formula.expr Expr.boundFor))).Composed fields := by
  refine Formula.parts_induction (.flag c.unit) (fun p hp => hp) (fun p q rest hp ih => ?_) parts h
  exact .make c hp ih

theorem Formula.composed {fields : List FieldCondition} (p : Formula) (h : p.fields ⊆ fields) :
    (p.expr Expr.boundFor).Composed fields := by
  have hparts {parts : List Formula} (h : parts.flatMap Formula.fields ⊆ fields) {p : Formula}
      (hp : p ∈ parts) : p.fields ⊆ fields :=
    fun _ hc => h (List.mem_flatMap_of_mem hp hc)
  induction p with
  | field c =>
    rw [expr]
    rw [Formula.fields] at h
    exact .field (h List.mem_cons_self)
  | all parts ih =>
    rw [expr]
    rw [Formula.fields] at h
    exact Connective.and.composed_joined fun p hp => ih p hp (hparts h hp)
  | any parts ih =>
    rw [expr]
    rw [Formula.fields] at h
    exact Connective.or.composed_joined fun p hp => ih p hp (hparts h hp)
  | conjunction parts ih =>
    rw [expr]
    rw [Formula.fields] at h
    exact Connective.and.composed_joined fun p hp => ih p hp (hparts h hp)

/-- The condition of a selector is put together from the conditions of its clauses, and its truth
literals stand for the empty groups. -/
theorem Selector.bound_condition (s : Selector) :
    ∃ e, s.toPredicate.bound.condition = .ok e ∧ e.Composed s.formula.fields ∧
      e.settled = s.settled := by
  obtain ⟨e, he, hgroups⟩ := s.formula.bound_spelledBy
  rw [s.toPredicate_formula] at he
  have hfills := s.formula.fills []
  rw [List.append_nil] at hfills
  have hbound : (e.bind s.toPredicate.bound.values).Regroups (s.formula.expr Expr.boundFor) := by
    have hfill := (hgroups.fill (s.formula.values.map SqlValue.ofScalar)).2
    rw [hfills] at hfill
    rw [Expr.bind, BoundPredicate.values, Predicate.bound, ← s.toPredicate_formula,
      s.formula.params_toPredicate]
    exact hfill
  refine ⟨_, ?_, hbound.composed (s.formula.composed fun _ hc => hc), ?_⟩
  · rw [BoundPredicate.condition, he.ofText?]
  · rw [hbound.settled_eq, s.formula.settled_expr, Selector.settled]

/-! ## Taking out truth literals -/

namespace Connective

/-- The operands joined, without truth literals among them. -/
def simple : Connective → Expr → Expr → Expr
  | and => Expr.simpleAnd
  | or => Expr.simpleOr

theorem simplify_make (c : Connective) (a b : Expr) :
    (c.make a b).simplify = c.simple a.simplify b.simplify := by
  cases c <;> rfl

theorem simple_unit_left (c : Connective) (e : Expr) : c.simple (.flag c.unit) e = e := by
  cases c with
  | and => simp [simple, unit, Expr.simpleAnd]
  | or =>
    by_cases he : e = .flag false
    · rw [he]
      rfl
    · simp [simple, unit, Expr.simpleOr, he]

theorem simple_unit_right (c : Connective) (e : Expr) : c.simple e (.flag c.unit) = e := by
  cases c with
  | and =>
    by_cases he : e = .flag true
    · rw [he]
      rfl
    · simp [simple, unit, Expr.simpleAnd, he]
  | or => simp [simple, unit, Expr.simpleOr]

theorem simple_decided_left (c : Connective) (e : Expr) :
    c.simple (.flag !c.unit) e = .flag !c.unit := by
  cases c <;> simp +contextual [simple, unit, Expr.simpleAnd, Expr.simpleOr]

theorem simple_decided_right (c : Connective) (e : Expr) :
    c.simple e (.flag !c.unit) = .flag !c.unit := by
  cases c <;> simp +contextual [simple, unit, Expr.simpleAnd, Expr.simpleOr]

theorem simple_of_ne (c : Connective) {a b : Expr} (ha : ∀ t, a ≠ .flag t)
    (hb : ∀ t, b ≠ .flag t) : c.simple a b = c.make a b := by
  cases c <;> simp [simple, make, Expr.simpleAnd, Expr.simpleOr, ha, hb]

/-- Either one operand decides, or both are the unit. -/
theorem of_apply_eq_some {c : Connective} {x y : Option Bool} {t : Bool}
    (h : c.apply x y = some t) :
    t = (!c.unit) ∧ (x = some t ∨ y = some t) ∨ t = c.unit ∧ x = some t ∧ y = some t := by
  revert h
  cases c <;> rcases x with _ | _ | _ <;> rcases y with _ | _ | _ <;> cases t <;> decide

/-- An operand that is not decided is left over, and beside it at most the unit. -/
theorem of_apply_eq_none {c : Connective} {x y : Option Bool} (h : c.apply x y = none) :
    x = none ∧ (y = none ∨ y = some c.unit) ∨ x = some c.unit ∧ y = none := by
  revert h
  cases c <;> rcases x with _ | _ | _ <;> rcases y with _ | _ | _ <;> decide

theorem apply_ne_none {c : Connective} {x y : Option Bool} (hx : x ≠ none) (hy : y ≠ none) :
    c.apply x y ≠ none := by
  intro h
  rcases of_apply_eq_none h with ⟨hnone, -⟩ | ⟨-, hnone⟩
  · exact hx hnone
  · exact hy hnone

theorem simple_cases (c : Connective) (a b : Expr) :
    c.simple a b = a ∨ c.simple a b = b ∨ c.simple a b = c.make a b := by
  cases c <;>
    · simp only [simple, make, Expr.simpleAnd, Expr.simpleOr]
      split_ifs <;> simp

/-- What a connective fails with, one of its operands fails with. -/
theorem of_holds_make_eq_error {c : Connective} {row : String → SqlValue} {a b : Expr}
    {e : EngineError} (h : (c.make a b).holds row = .error e) :
    a.holds row = .error e ∨ b.holds row = .error e := by
  cases c with
  | and =>
    rcases bind_eq_error.1 h with ha | ⟨t, -, h⟩
    · exact .inl ha
    · cases t with
      | true => exact .inr h
      | false => cases h
  | or =>
    rcases bind_eq_error.1 h with ha | ⟨t, -, h⟩
    · exact .inl ha
    · cases t with
      | true => cases h
      | false => exact .inr h

/-- The first operand is always evaluated. -/
theorem holds_make_of_error (c : Connective) {row : String → SqlValue} {a b : Expr}
    {e : EngineError} (ha : a.holds row = .error e) : (c.make a b).holds row = .error e := by
  cases c <;>
    · rw [make, Expr.holds, ha]
      rfl

end Connective

namespace Expr

variable {fields : List FieldCondition}

/-- A condition that its truth literals decide becomes a truth literal. -/
theorem Composed.simplify_of_settled {e : Expr} (he : e.Composed fields) {t : Bool}
    (h : e.settled = some t) : e.simplify = Expr.flag t := by
  induction he generalizing t with
  | flag b =>
    cases h
    rfl
  | @field c hc => cases c <;> cases h
  | make c ha hb iha ihb =>
    rw [settled_make] at h
    rw [c.simplify_make]
    rcases Connective.of_apply_eq_some h with ⟨rfl, hx | hy⟩ | ⟨rfl, hx, hy⟩
    · rw [iha hx, c.simple_decided_left]
    · rw [ihb hy, c.simple_decided_right]
    · rw [iha hx, ihb hy, c.simple_unit_left]

/-! ## Rows with malformed documents -/

/-- The functions on documents fail on the document of the row. -/
def Refused (row : String → SqlValue) : Prop :=
  JsonFunction.document (row valueColumn) = .error .malformedJson

variable {row : String → SqlValue}

/-- A document that is refused is refused before the path is looked at. -/
theorem compute_callExpr_of_refused (h : Refused row) (f : JsonFunction) (path : String) :
    compute row (FieldCondition.callExpr boundFor f path) = .error .malformedJson := by
  show f.apply (row valueColumn) (.ofScalar (.string path)) = _
  rw [JsonFunction.apply, h]
  rfl

/-- A condition on a field looks at the document first. -/
theorem holds_field_of_refused (h : Refused row) (c : FieldCondition) :
    holds row (c.expr boundFor) = .error .malformedJson := by
  cases c <;>
    · simp only [FieldCondition.expr, holds, compute, compute_callExpr_of_refused h]
      rfl

/-- What is left of a condition that its truth literals do not decide fails on a malformed row: a
condition on a field comes first. -/
theorem Composed.holds_of_refused {e : Expr} (he : e.Composed fields) (hsettled : e.settled = none)
    (h : Refused row) : holds row e.simplify = .error .malformedJson := by
  have notFlag {x : Expr} (hx : holds row x = .error .malformedJson) (t : Bool) :
      x ≠ Expr.flag t := by
    rintro rfl
    cases hx
  induction he with
  | flag b => cases hsettled
  | @field c hc =>
    have hfixed : (c.expr boundFor).simplify = c.expr boundFor := by cases c <;> rfl
    rw [hfixed]
    exact holds_field_of_refused h c
  | make c ha hb iha ihb =>
    rw [settled_make] at hsettled
    rw [c.simplify_make]
    rcases Connective.of_apply_eq_none hsettled with ⟨hx, hy | hy⟩ | ⟨hx, hy⟩
    · rw [c.simple_of_ne (notFlag (iha hx)) (notFlag (ihb hy))]
      exact c.holds_make_of_error (iha hx)
    · rw [hb.simplify_of_settled hy, c.simple_unit_right]
      exact iha hx
    · rw [ha.simplify_of_settled hx, c.simple_unit_left]
      exact ihb hy

/-! ## What a filter does -/

theorem Composed.conjuncts {e : Expr} (he : e.Composed fields) :
    ∀ x ∈ e.conjuncts, x.Composed fields := by
  induction he with
  | flag b => exact List.forall_mem_singleton.2 (.flag b)
  | @field c hc =>
    have hself : (c.expr boundFor).conjuncts = [c.expr boundFor] := by cases c <;> rfl
    rw [hself, List.forall_mem_singleton]
    exact .field hc
  | make c ha hb iha ihb =>
    cases c with
    | and =>
      rw [Connective.make, Expr.conjuncts, List.forall_mem_append]
      exact ⟨iha, ihb⟩
    | or => exact List.forall_mem_singleton.2 (ha.make .or hb)

/-- A condition is settled as all the conditions are that it joins by `AND`. -/
theorem settled_conjuncts (e : Expr) : e.settled = kleeneAll (e.conjuncts.map settled) := by
  induction e with
  | and a b iha ihb =>
    rw [conjuncts, List.map_append, kleeneAll_append, ← iha, ← ihb]
    rfl
  | _ => exact (kleeneAnd_true _).symm

theorem settled_ne_false_of_mem {e x : Expr} (h : e.settled ≠ some false)
    (hx : x ∈ e.conjuncts) : x.settled ≠ some false := by
  intro hfalse
  rw [settled_conjuncts] at h
  exact h (kleeneAll_eq_false_iff.2 ⟨_, List.mem_map_of_mem hx, hfalse⟩)

/-- Without conditions on fields there are only truth literals. -/
theorem Composed.settled_of_isConstant {e : Expr} (he : e.Composed fields)
    (h : e.isConstant = true) : e.settled ≠ none := by
  induction he with
  | flag b => exact Option.some_ne_none b
  | @field c hc => cases c <;> cases h
  | @make c a b ha hb iha ihb =>
    have hparts : a.isConstant = true ∧ b.isConstant = true := by
      cases c <;> exact Bool.and_eq_true_iff.1 h
    rw [settled_make]
    exact Connective.apply_ne_none (iha hparts.1) (ihb hparts.2)

/-- Conditions that have become true hold of every row. -/
theorem allHold_of_forall_flag {es : List Expr} (h : ∀ e ∈ es, e = flag true) :
    allHold row es = .ok true := by
  induction es with
  | nil => rfl
  | cons e es ih =>
    rw [List.forall_mem_cons] at h
    rw [h.1, allHold, ih h.2]
    rfl

/-- True literals are passed over; what stands behind them fails. -/
theorem allHold_of_mem_error {es : List Expr} {err : EngineError}
    (h : ∀ e ∈ es, e = flag true ∨ holds row e = .error err)
    (hmem : ∃ e ∈ es, holds row e = .error err) : allHold row es = .error err := by
  induction es with
  | nil => simp at hmem
  | cons e es ih =>
    rw [List.forall_mem_cons] at h
    rw [List.exists_mem_cons_iff] at hmem
    rw [allHold]
    rcases h.1 with rfl | he
    · rcases hmem with hfails | hmem
      · cases hfails
      · exact ih h.2 hmem
    · rw [he]
      rfl

section

variable {ρ : Type} {column : ρ → String → SqlValue} {es : List Expr} {rows : List ρ}

theorem keepAll_of_forall (h : ∀ r ∈ rows, allHold (column r) es = .ok true) :
    keepAll column es rows = .ok rows := by
  induction rows with
  | nil => rfl
  | cons r rows ih =>
    rw [List.forall_mem_cons] at h
    rw [keepAll, h.1, ih h.2]
    rfl

/-- One row on which a condition fails makes the whole filter fail, perhaps at an earlier row. -/
theorem exists_keepAll_eq_error {r : ρ} {err : EngineError} (hr : r ∈ rows)
    (h : allHold (column r) es = .error err) : ∃ err, keepAll column es rows = .error err := by
  induction rows with
  | nil => simp at hr
  | cons s rows ih =>
    rw [keepAll]
    rw [List.mem_cons] at hr
    cases hs : allHold (column s) es with
    | error err' => exact ⟨err', rfl⟩
    | ok kept =>
      rcases hr with rfl | hr
      · rw [h] at hs
        cases hs
      · obtain ⟨err', hrest⟩ := ih hr
        rw [hrest]
        exact ⟨err', rfl⟩

/-- What a filter keeps is among the rows, in their order. -/
theorem sublist_of_keepAll {kept : List ρ} (h : keepAll column es rows = .ok kept) :
    kept.Sublist rows := by
  induction rows generalizing kept with
  | nil =>
    cases h
    exact .refl []
  | cons r rows ih =>
    obtain ⟨b, -, h⟩ := bind_eq_ok.1 h
    obtain ⟨rest, hrest, h⟩ := bind_eq_ok.1 h
    cases h
    cases b with
    | true => exact (ih hrest).cons_cons r
    | false => exact (ih hrest).cons r

theorem sublist_of_keep {e : Expr} {kept : List ρ} (h : e.keep column rows = .ok kept) :
    kept.Sublist rows := by
  obtain ⟨b, -, h⟩ := bind_eq_ok.1 h
  cases b with
  | true => exact sublist_of_keepAll h
  | false =>
    cases h
    exact List.nil_sublist rows

/-- The constant parts of a condition do not stop a filter unless they are false. -/
theorem Composed.keep_eq {e : Expr} (he : e.Composed fields) (hfalse : e.settled ≠ some false) :
    e.keep column rows =
      keepAll column ((e.conjuncts.filter fun e => !e.isConstant).map simplify) rows := by
  have hconstant : allHold (fun _ => .null) ((e.conjuncts.filter isConstant).map simplify) =
      .ok true := by
    refine allHold_of_forall_flag (List.forall_mem_map.2 fun x hx => ?_)
    obtain ⟨hx, hconst⟩ := List.mem_filter.1 hx
    have hcomposed := he.conjuncts x hx
    rcases hsettled : x.settled with _ | _ | _
    · exact absurd hsettled (hcomposed.settled_of_isConstant hconst)
    · exact absurd hsettled (settled_ne_false_of_mem hfalse hx)
    · exact hcomposed.simplify_of_settled hsettled
  rw [keep, hconstant]
  rfl

/-- **A condition that its truth literals make true keeps all rows**, whatever is in them. -/
theorem Composed.keep_of_settled_true {e : Expr} (he : e.Composed fields)
    (hsettled : e.settled = some true) : e.keep column rows = .ok rows := by
  rw [he.keep_eq (by simp [hsettled])]
  rw [settled_conjuncts, kleeneAll_eq_true_iff, List.forall_mem_map] at hsettled
  refine keepAll_of_forall fun r _ => allHold_of_forall_flag (List.forall_mem_map.2 fun x hx => ?_)
  have hx := (List.mem_filter.1 hx).1
  exact (he.conjuncts x hx).simplify_of_settled (hsettled x hx)

/-- **A condition that its truth literals leave open cannot pass over a malformed row**: the filter
fails. -/
theorem Composed.keep_of_refused {e : Expr} (he : e.Composed fields) (hsettled : e.settled = none)
    {r : ρ} (hr : r ∈ rows) (h : Refused (column r)) : ∃ err, e.keep column rows = .error err := by
  have hfalse : e.settled ≠ some false := by simp [hsettled]
  have hopen {x : Expr} (hx : x ∈ e.conjuncts) (hnone : x.settled = none) :
      holds (column r) x.simplify = .error .malformedJson :=
    (he.conjuncts x hx).holds_of_refused hnone h
  have hrow : allHold (column r) ((e.conjuncts.filter fun e => !e.isConstant).map simplify) =
      .error .malformedJson := by
    refine allHold_of_mem_error (List.forall_mem_map.2 fun x hx => ?_) ?_
    · have hx := (List.mem_filter.1 hx).1
      rcases hx' : x.settled with _ | _ | _
      · exact .inr (hopen hx hx')
      · exact absurd hx' (settled_ne_false_of_mem hfalse hx)
      · exact .inl ((he.conjuncts x hx).simplify_of_settled hx')
    · -- one of the parts is left open, and it is not constant
      rw [settled_conjuncts] at hsettled
      obtain ⟨t, ht, rfl⟩ := exists_none_of_kleeneAll hsettled
      obtain ⟨x, hx, hnone⟩ := List.mem_map.1 ht
      have hvaries : (!x.isConstant) = true := by
        rw [Bool.not_eq_true', ← Bool.not_eq_true]
        exact fun hconst => (he.conjuncts x hx).settled_of_isConstant hconst hnone
      exact ⟨_, List.mem_map_of_mem (List.mem_filter.2 ⟨hx, hvaries⟩), hopen hx hnone⟩
  rw [he.keep_eq hfalse]
  exact exists_keepAll_eq_error hr hrow

end

/-! ## What a filter fails with -/

/-- A pattern of wildcards that is compared with is longer than a pattern may be. -/
def HasLongPattern (fields : List FieldCondition) : Prop :=
  ∃ path op v p, FieldCondition.compare path op v ∈ fields ∧ (op = .like ∨ op = .glob) ∧
    JsonFunction.textOf? (.ofScalar v) = some p ∧ SqlValue.maxPatternLength < p.length

/-- An error of a condition on fields: a malformed document, a malformed path, a pattern that is too
long, or whatever the match of a regular expression reports. -/
def FailsWith (fields : List FieldCondition) (err : EngineError) : Prop :=
  err = .malformedJson ∨ (∃ path, err = .badPath path) ∨ HasLongPattern fields ∨
    ∃ path v, .compare path .regexp v ∈ fields

/-- What is refused as a document is malformed. -/
theorem document_eq_error {v : SqlValue} {err : EngineError}
    (h : JsonFunction.document v = .error err) : err = .malformedJson := by
  unfold JsonFunction.document at h
  simp only at h
  split at h
  · cases h
  · split at h
    · cases h
    · split at h <;> cases h
      rfl
  · split at h <;> cases h
    rfl

/-- A walk fails at a malformed part or at a malformed path. -/
theorem outcome_eq_error {α : Type} {f : JsonFunction} {value? : α → Option SqlValue}
    {type : α → String} {path : List Char} {target : Target α} {err : EngineError}
    (h : f.outcome value? type path target = .error err) :
    err = .malformedJson ∨ ∃ path, err = .badPath path := by
  cases target with
  | found x =>
    cases f with
    | extract =>
      rw [JsonFunction.outcome] at h
      split at h <;> cases h
      exact .inl rfl
    | typeOf => cases h
  | absent => cases h
  | badPath =>
    cases h
    exact .inr ⟨_, rfl⟩
  | malformed =>
    cases h
    exact .inl rfl

theorem compute_callExpr_eq_error {f : JsonFunction} {path : String} {err : EngineError}
    (h : compute row (FieldCondition.callExpr boundFor f path) = .error err) :
    FailsWith fields err := by
  have hwalk (h : err = .malformedJson ∨ ∃ path, err = .badPath path) : FailsWith fields err :=
    h.imp_right .inl
  change f.apply (row valueColumn) (.ofScalar (.string path)) = .error err at h
  rcases bind_eq_error.1 h with hdoc | ⟨o, -, h⟩
  · exact .inl (document_eq_error hdoc)
  · split at h
    · cases h
    · cases h
    · simp only at h
      split at h <;> exact hwalk (outcome_eq_error h)

/-- Only a pattern that is too long is refused. -/
theorem likeness_eq_error {items : List Nat → List Wildcard} {a b : SqlValue} {err : EngineError}
    (h : a.likeness items b = .error err) :
    ∃ p, JsonFunction.textOf? b = some p ∧ SqlValue.maxPatternLength < p.length := by
  unfold SqlValue.likeness at h
  split at h
  · cases h
  · next p hp =>
    split at h
    · next hlong => exact ⟨p, hp, hlong⟩
    · cases h

/-- A comparison of a field fails for its pattern alone. -/
theorem apply_eq_error {path : String} {op : Comparison} {v : Scalar}
    (hc : .compare path op v ∈ fields) {asText : Bool} {x : SqlValue} {err : EngineError}
    (h : op.apply asText x (.ofScalar v) = .error err) : FailsWith fields err := by
  cases op with
  | regexp => exact .inr (.inr (.inr ⟨path, v, hc⟩))
  | like =>
    obtain ⟨p, hp, hlong⟩ := likeness_eq_error h
    exact .inr (.inr (.inl ⟨path, _, v, p, hc, .inl rfl, hp, hlong⟩))
  | glob =>
    obtain ⟨p, hp, hlong⟩ := likeness_eq_error h
    exact .inr (.inr (.inl ⟨path, _, v, p, hc, .inr rfl, hp, hlong⟩))
  | _ => cases h

theorem holds_field_eq_error {c : FieldCondition} (hc : c ∈ fields) {err : EngineError}
    (h : holds row (c.expr boundFor) = .error err) : FailsWith fields err := by
  have hnull {e : Expr} {b : Bool} (h : holds row (.isNull e b) = .error err) :
      compute row e = .error err := by
    rcases bind_eq_error.1 h with h | ⟨v, -, h⟩
    · rcases bind_eq_error.1 h with h | ⟨v, -, h⟩
      · exact h
      · cases h
    · cases h
  cases c with
  | compare path op v =>
    rcases bind_eq_error.1 h with h | ⟨x, -, h⟩
    · rcases bind_eq_error.1 h with h | ⟨x, -, h⟩
      · exact compute_callExpr_eq_error h
      · rcases bind_eq_error.1 h with h | ⟨y, hy, h⟩
        · cases h
        · cases hy
          rcases bind_eq_error.1 h with h | ⟨t, -, h⟩
          · exact apply_eq_error hc h
          · cases h
    · cases h
  | present path expected => exact compute_callExpr_eq_error (hnull h)
  | isNull path expected => exact compute_callExpr_eq_error (hnull h)

/-- What is left of a condition fails with an error of a condition on a field. -/
theorem Composed.holds_eq_error {e : Expr} (he : e.Composed fields) {err : EngineError}
    (h : holds row e.simplify = .error err) : FailsWith fields err := by
  induction he with
  | flag b => cases h
  | @field c hc =>
    have hfixed : (c.expr boundFor).simplify = c.expr boundFor := by cases c <;> rfl
    rw [hfixed] at h
    exact holds_field_eq_error hc h
  | @make c a b ha hb iha ihb =>
    rw [c.simplify_make] at h
    rcases c.simple_cases a.simplify b.simplify with hs | hs | hs
    · exact iha (hs ▸ h)
    · exact ihb (hs ▸ h)
    · rw [hs] at h
      rcases Connective.of_holds_make_eq_error h with h | h
      · exact iha h
      · exact ihb h

theorem exists_of_allHold_eq_error {es : List Expr} {err : EngineError}
    (h : allHold row es = .error err) : ∃ e ∈ es, holds row e = .error err := by
  induction es with
  | nil => cases h
  | cons e es ih =>
    rw [List.exists_mem_cons_iff]
    rcases bind_eq_error.1 h with he | ⟨b, -, h⟩
    · exact .inl he
    · cases b with
      | true => exact .inr (ih h)
      | false => cases h

section

variable {ρ : Type} {column : ρ → String → SqlValue} {es : List Expr} {rows : List ρ}

/-- A filter that fails has failed at some row. -/
theorem exists_of_keepAll_eq_error {err : EngineError}
    (h : keepAll column es rows = .error err) : ∃ row, allHold row es = .error err := by
  induction rows with
  | nil => cases h
  | cons r rows ih =>
    rcases bind_eq_error.1 h with hr | ⟨b, -, h⟩
    · exact ⟨column r, hr⟩
    · rcases bind_eq_error.1 h with hrest | ⟨kept, -, h⟩
      · exact ih hrest
      · cases h

/-- A filter fails with an error of one of the conditions on fields. -/
theorem Composed.keep_eq_error {e : Expr} (he : e.Composed fields) {err : EngineError}
    (h : e.keep column rows = .error err) : FailsWith fields err := by
  have hparts {p : Expr → Bool} {row : String → SqlValue}
      (h : allHold row ((e.conjuncts.filter p).map simplify) = .error err) :
      FailsWith fields err := by
    obtain ⟨x, hx, hfails⟩ := exists_of_allHold_eq_error h
    obtain ⟨y, hy, rfl⟩ := List.mem_map.1 hx
    exact (he.conjuncts y (List.mem_filter.1 hy).1).holds_eq_error hfails
  rcases bind_eq_error.1 h with hconst | ⟨b, -, h⟩
  · exact hparts hconst
  · cases b with
    | true =>
      obtain ⟨row, hrow⟩ := exists_of_keepAll_eq_error h
      exact hparts hrow
    | false => cases h

end

/-- A regular expression is matched by one of the conditions on fields. -/
theorem Composed.exists_regexp {e : Expr} (he : e.Composed fields) (h : e.uses .regexp = true) :
    ∃ path v, .compare path .regexp v ∈ fields := by
  induction he with
  | flag b => cases h
  | @field c hc =>
    cases c with
    | compare path op v =>
      cases op with
      | regexp => exact ⟨path, v, hc⟩
      | _ => cases h
    | present => cases h
    | isNull => cases h
  | @make c a b ha hb iha ihb =>
    have hparts : a.uses .regexp = true ∨ b.uses .regexp = true := by
      cases c <;> exact Bool.or_eq_true_iff.1 h
    exact hparts.elim iha ihb

end Expr

end DocSelect
