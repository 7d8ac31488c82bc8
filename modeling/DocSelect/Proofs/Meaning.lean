import DocSelect.Proofs.FormulaTokens
import DocSelect.Proofs.LiteralValue
import DocSelect.Proofs.Values
import DocSelect.Sql.Condition
/-!
# The meaning of the text of a predicate

The text of a predicate is read as one expression only, and the value of this expression is the
truth of the tree from which the predicate is built. A conjunction has no parentheses, so the text
of a tree groups differently from the tree where conjunctions are nested; the two groupings are
alike, whatever values are bound.

* `Expr.Regroups` : two expressions differ at most in how their connectives are grouped;
* `Expr.Alike` : two expressions have the same value whatever values are bound;
* `Expr.Reads.join` : readings joined by a connective, regrouped to the left;
* `Formula.reads` : the tokens of a tree are read as its expression, up to grouping;
* `Predicate.Means` : the two texts of a predicate have one reading each, of a given truth;
* `Predicate.texts_mean_truth` : **the texts of a tree, and of a selector, mean its truth**.
-/

namespace DocSelect

/-! ## Connectives -/

/-- `AND` or `OR`. -/
inductive Connective
  /-- All hold. -/
  | and
  /-- One holds. -/
  | or

namespace Connective

/-- The level at which the connective binds. -/
def level : Connective → Expr.Level
  | and => .conjunction
  | or => .disjunction

/-- The expression of two operands. -/
def make : Connective → Expr → Expr → Expr
  | and => .and
  | or => .or

/-- The word between the operands. -/
def word : Connective → String
  | and => "AND"
  | or => "OR"

/-- Whether no operands at all hold. -/
def unit : Connective → Bool
  | and => true
  | or => false

/-- The word that stands for no operands. -/
def empty : Connective → String
  | and => "TRUE"
  | or => "FALSE"

/-- The truth of two operands. -/
def apply : Connective → Option Bool → Option Bool → Option Bool
  | and => kleeneAnd
  | or => kleeneOr

theorem apply_assoc (c : Connective) (x y z : Option Bool) :
    c.apply (c.apply x y) z = c.apply x (c.apply y z) := by
  cases c
  · exact kleeneAnd_assoc x y z
  · exact kleeneOr_assoc x y z

theorem eval_make (c : Connective) (i : Interpretation) (a b : Expr) :
    (c.make a b).eval i = .ofTruth (c.apply (a.eval i).truth (b.eval i).truth) := by
  cases c <;> rfl

theorem fill_make (c : Connective) (a b : Expr) (vs : List SqlValue) :
    (c.make a b).fill vs =
      (c.make (a.fill vs).1 (b.fill (a.fill vs).2).1, (b.fill (a.fill vs).2).2) := by
  cases c <;> rfl

theorem operator?_word (c : Connective) :
    c.level.operator? (.word c.word.toList) = some c.make := by
  cases c <;> rfl

/-- The connective is the only operator of its level. -/
theorem eq_make {c : Connective} {t : Token} {make : Expr → Expr → Expr}
    (h : c.level.operator? t = some make) : make = c.make := by
  cases c <;>
    · simp only [level, Expr.Level.operator?, Option.ite_none_right_eq_some,
        Option.some.injEq] at h
      exact h.2.symm

end Connective

/-! ## Expressions that are alike -/

namespace Expr

/-- The two expressions take the same number of values, and have the same value whatever values are
bound. -/
def Alike (e f : Expr) : Prop :=
  ∀ vs, (e.fill vs).2 = (f.fill vs).2 ∧ ∀ i, (e.fill vs).1.eval i = (f.fill vs).1.eval i

theorem Alike.refl (e : Expr) : Alike e e := fun _ => ⟨rfl, fun _ => rfl⟩

theorem Alike.trans {e f g : Expr} (h : Alike e f) (h' : Alike f g) : Alike e g := fun vs =>
  ⟨(h vs).1.trans (h' vs).1, fun i => ((h vs).2 i).trans ((h' vs).2 i)⟩

theorem Alike.make {a a' b b' : Expr} (c : Connective) (ha : Alike a a') (hb : Alike b b') :
    Alike (c.make a b) (c.make a' b') := by
  intro vs
  obtain ⟨harest, haval⟩ := ha vs
  obtain ⟨hbrest, hbval⟩ := hb (a.fill vs).2
  rw [c.fill_make, c.fill_make, ← harest]
  exact ⟨hbrest, fun i => by rw [c.eval_make, c.eval_make, haval, hbval]⟩

/-- Regrouping changes neither the order of the placeholders nor the value. -/
theorem alike_assoc (c : Connective) (x y z : Expr) :
    Alike (c.make (c.make x y) z) (c.make x (c.make y z)) := by
  intro vs
  rw [c.fill_make, c.fill_make, c.fill_make, c.fill_make]
  exact ⟨rfl, fun i => by simp only [c.eval_make, SqlValue.truth_ofTruth, c.apply_assoc]⟩

/-- The two expressions differ at most in how their connectives are grouped. -/
inductive Regroups : Expr → Expr → Prop
  /-- They do not differ. -/
  | refl (e : Expr) : Regroups e e
  /-- One regrouping after the other. -/
  | trans {e f g : Expr} (h : Regroups e f) (h' : Regroups f g) : Regroups e g
  /-- The operands are regrouped. -/
  | make {a a' b b' : Expr} (c : Connective) (ha : Regroups a a') (hb : Regroups b b') :
    Regroups (c.make a b) (c.make a' b')
  /-- Three operands are grouped to the left, and to the right. -/
  | assoc (c : Connective) (x y z : Expr) :
    Regroups (c.make (c.make x y) z) (c.make x (c.make y z))

theorem Regroups.alike {e f : Expr} (h : Regroups e f) : Alike e f := by
  induction h with
  | refl e => exact .refl e
  | trans _ _ ih ih' => exact ih.trans ih'
  | make c _ _ iha ihb => exact iha.make c ihb
  | assoc c x y z => exact alike_assoc c x y z

/-- A placeholder without a value has the value that it has when nothing is bound. -/
theorem eval_fill_nil (e : Expr) :
    (e.fill []).2 = [] ∧ ∀ i, (e.fill []).1.eval i = e.eval i := by
  induction e with
  | value v => exact ⟨rfl, fun _ => rfl⟩
  | flag b => exact ⟨rfl, fun _ => rfl⟩
  | hole => exact ⟨rfl, fun _ => rfl⟩
  | column name => exact ⟨rfl, fun _ => rfl⟩
  | castText e ih => exact ⟨ih.1, fun i => by simp only [fill, eval, ih.2]⟩
  | isNull e expected ih => exact ⟨ih.1, fun i => by simp only [fill, eval, ih.2]⟩
  | call f a b iha ihb | compare op a b iha ihb | and a b iha ihb | or a b iha ihb =>
    refine ⟨?_, fun i => ?_⟩
    · simp only [fill, iha.1, ihb.1]
    · simp only [fill, eval, iha.1, iha.2, ihb.2]

/-- Expressions that are alike have the same value when nothing is bound. -/
theorem Alike.eval_eq {e f : Expr} (h : Alike e f) (i : Interpretation) : e.eval i = f.eval i := by
  rw [← (eval_fill_nil e).2, (h []).2, (eval_fill_nil f).2]

/-! ## Readings joined by a connective -/

/-- Readings joined by a connective are a reading. The right one may itself be joined by the
connective: then its operands regroup to the left. -/
theorem Reads.join {c : Connective} {ts us : List Token} {a b : Expr}
    (ha : Reads (some c.level) ts a) (hb : Reads (some c.level) us b) :
    ∃ e, Reads (some c.level) (ts ++ .word c.word.toList :: us) e ∧ Regroups e (c.make a b) := by
  generalize hl : some c.level = l at hb
  -- by induction on the right reading: its left operand joins first, its right one is put behind
  induction hb with
  | tighter h =>
    obtain rfl := Option.some.inj hl
    exact ⟨_, .binary c.operator?_word ha h, .refl _⟩
  | @binary l t make us vs b d hop _ right ih =>
    obtain rfl := Option.some.inj hl
    obtain rfl := Connective.eq_make hop
    obtain ⟨e, he, hgroups⟩ := ih rfl
    refine ⟨c.make e d, ?_, (hgroups.make c (.refl d)).trans (.assoc c a b d)⟩
    have hreads := Reads.binary hop he right
    rw [List.append_assoc] at hreads
    exact hreads
  | isNull => cases c <;> cases hl
  | isNotNull => cases c <;> cases hl
  | group => cases hl
  | call => cases hl
  | cast => cases hl
  | atom => cases hl

end Expr

/-! ## The expression of a tree -/

/-- Expressions joined by a connective; a truth literal stands for none. -/
def Connective.joined (c : Connective) : List Expr → Expr
  | [] => .flag c.unit
  | [e] => e
  | e :: rest => c.make e (c.joined rest)

namespace FieldCondition

/-- A function of the document at a path. -/
def callExpr (read : Scalar → Expr) (f : JsonFunction) (path : String) : Expr :=
  .call f (.column valueColumn) (read (.string path))

/-- The expression of the condition. -/
def expr (read : Scalar → Expr) : FieldCondition → Expr
  | compare path op operand => .compare op (callExpr read .extract path) (read operand)
  | present path expected => .isNull (callExpr read .typeOf path) !expected
  | isNull path expected => .isNull (callExpr read .extract path) expected

end FieldCondition

/-- The expression of the tree, grouped as the tree is. -/
def Formula.expr (read : Scalar → Expr) : Formula → Expr
  | field c => c.expr read
  | all parts => Connective.and.joined (parts.map (expr read))
  | any parts => Connective.or.joined (parts.map (expr read))
  | conjunction parts => Connective.and.joined (parts.map (expr read))

/-! ## The tokens of a tree are read as its expression -/

section

open DocSelect.Expr

variable {write : Scalar → List Token} {read : Scalar → Expr}

/-- A comparison of two operands. -/
theorem Comparison.reads (op : Comparison) {ts us : List Token} {a b : Expr}
    (ha : Reads none ts a) (hb : Reads none us b) :
    Reads (some .equality) (ts ++ op.token :: us) (.compare op a b) := by
  cases op with
  | lt | lte | gt | gte => exact .tighter (.binary rfl (ha.at_level .order) hb)
  | eq | ne | like | glob | regexp =>
    exact .binary rfl (ha.at_level .equality) (hb.at_level .order)

namespace FieldCondition

theorem reads_call (hwrite : ∀ v, Reads none (write v) (read v)) (f : JsonFunction)
    (path : String) : Reads none (callTokens write f path) (callExpr read f path) := by
  have hname : functionOf? (.word f.name.toList) = some f := by cases f <;> rfl
  have hcolumn : Reads none [.word valueColumn.toList] (.column valueColumn) := .atom rfl
  exact .call hname (hcolumn.at_level _) ((hwrite (.string path)).at_level _)

theorem reads_null (null : Bool) {ts : List Token} {e : Expr} (h : Reads none ts e) :
    Reads (some .equality) (ts ++ nullTokens null) (e.isNull null) := by
  cases null
  · exact .isNotNull (by decide) (by decide) (by decide) (h.at_level .equality)
  · exact .isNull (by decide) (by decide) (h.at_level .equality)

/-- The condition is an operand by itself. -/
theorem reads (hwrite : ∀ v, Reads none (write v) (read v)) (c : FieldCondition) :
    Reads none (c.tokens write) (c.expr read) := by
  have hgroup {ts : List Token} {e : Expr} (h : Reads (some .equality) ts e) :
      Reads none (group ts) e := .group (.tighter (.tighter h))
  cases c with
  | compare path op operand => exact hgroup (op.reads (reads_call hwrite _ path) (hwrite operand))
  | present path expected => exact hgroup (reads_null _ (reads_call hwrite _ path))
  | isNull path expected => exact hgroup (reads_null _ (reads_call hwrite _ path))

end FieldCondition

namespace Formula

/-- Parts joined by a connective. -/
theorem reads_joined (c : Connective) {parts : List Formula}
    (h : ∀ p ∈ parts, ∃ e, Reads (some .conjunction) (p.tokens write) e ∧
      Regroups e (p.expr read)) :
    ∃ e, Reads (some c.level) (joinedTokens c.word c.empty (parts.map (tokens write))) e ∧
      Regroups e (c.joined (parts.map (expr read))) := by
  have hlevel {ts : List Token} {e : Expr} (h : Reads (some .conjunction) ts e) :
      Reads (some c.level) ts e := by
    cases c
    · exact h
    · exact .tighter h
  refine parts_induction ?_ ?_ ?_ parts h
  · have hempty : Reads none [.word c.empty.toList] (.flag c.unit) := by cases c <;> exact .atom rfl
    exact ⟨_, hempty.at_level _, .refl _⟩
  · rintro p ⟨e, he, hgroups⟩
    exact ⟨e, hlevel he, hgroups⟩
  · rintro p q rest ⟨e, he, hgroups⟩ ⟨f, hf, hgroups'⟩
    -- a part without parentheses may hold the connective itself, so the reading regroups
    obtain ⟨g, hg, hjoin⟩ := (hlevel he).join hf
    exact ⟨g, hg, hjoin.trans (hgroups.make c hgroups')⟩

/-- The tokens of a tree are read as its expression, up to the grouping of conjunctions. -/
theorem reads (hwrite : ∀ v, Reads none (write v) (read v)) (p : Formula) :
    ∃ e, Reads (some .conjunction) (p.tokens write) e ∧ Regroups e (p.expr read) := by
  induction p with
  | field c =>
    rw [tokens, expr]
    exact ⟨_, (c.reads hwrite).at_level .conjunction, .refl _⟩
  | all parts ih =>
    obtain ⟨e, he, hgroups⟩ := reads_joined .and ih
    rw [tokens, expr]
    exact ⟨e, Reads.at_level (.group (.tighter he)) .conjunction, hgroups⟩
  | any parts ih =>
    obtain ⟨e, he, hgroups⟩ := reads_joined .or ih
    rw [tokens, expr]
    exact ⟨e, Reads.at_level (.group he) .conjunction, hgroups⟩
  | conjunction parts ih =>
    rw [tokens, expr]
    exact reads_joined .and ih

end Formula

end

/-! ## The value of the expression of a tree -/

section

variable {read : Scalar → Expr} {i : Interpretation}

theorem Connective.apply_unit (c : Connective) (t : Option Bool) : c.apply t (some c.unit) = t := by
  cases c
  · exact kleeneAnd_true t
  · exact kleeneOr_false t

theorem FieldCondition.eval_expr (hread : ∀ v, (read v).eval i = .ofScalar v)
    (c : FieldCondition) : (c.expr read).eval i = .ofTruth (c.truth i) := by
  have hcall (f : JsonFunction) (path : String) :
      (callExpr read f path).eval i = valueAt i f path := by
    rw [callExpr, Expr.eval, hread]
    rfl
  cases c with
  | compare path op operand => rw [expr, Expr.eval, hcall, hread, truth]
  | present path expected =>
    rw [expr, Expr.eval, hcall, truth, SqlValue.ofTruth]
    cases expected <;> simp
  | isNull path expected => rw [expr, Expr.eval, hcall, truth, SqlValue.ofTruth]

theorem Connective.eval_joined (c : Connective) {parts : List Formula}
    (h : ∀ p ∈ parts, (p.expr read).eval i = .ofTruth (p.truth i)) :
    (c.joined (parts.map (Formula.expr read))).eval i =
      .ofTruth ((parts.map (Formula.truth i)).foldr c.apply (some c.unit)) := by
  refine Formula.parts_induction rfl (fun p hp => ?_) (fun p q rest hp ih => ?_) parts h
  · rw [List.map_cons, List.map_nil, List.map_cons, List.map_nil, List.foldr_cons,
      List.foldr_nil, c.apply_unit]
    exact hp
  · show (c.make (p.expr read) (c.joined _)).eval i = .ofTruth (c.apply (p.truth i) _)
    rw [c.eval_make, hp, ih, SqlValue.truth_ofTruth, SqlValue.truth_ofTruth]

/-- The value of the expression of a tree is the truth of the tree. -/
theorem Formula.eval_expr (hread : ∀ v, (read v).eval i = .ofScalar v) (p : Formula) :
    (p.expr read).eval i = .ofTruth (p.truth i) := by
  induction p with
  | field c =>
    rw [expr, truth]
    exact c.eval_expr hread
  | all parts ih =>
    rw [expr, truth]
    exact Connective.and.eval_joined ih
  | any parts ih =>
    rw [expr, truth]
    exact Connective.or.eval_joined ih
  | conjunction parts ih =>
    rw [expr, truth]
    exact Connective.and.eval_joined ih

end

/-! ## The values that are bound -/

/-- Binding the values fills the placeholders and leaves nothing over. -/
def Expr.Fills (e : Expr) (vs : List Scalar) (f : Expr) : Prop :=
  ∀ ws, e.fill (vs.map SqlValue.ofScalar ++ ws) = (f, ws)

theorem Expr.Fills.make {e e' f f' : Expr} {vs vs' : List Scalar} (c : Connective)
    (h : Fills e vs f) (h' : Fills e' vs' f') : Fills (c.make e e') (vs ++ vs') (c.make f f') := by
  intro ws
  rw [List.map_append, List.append_assoc, c.fill_make, h, h']

section

/-- A placeholder for each value. -/
def Expr.holeFor (_ : Scalar) : Expr := .hole

/-- The value that is bound for a scalar. -/
def Expr.boundFor (v : Scalar) : Expr := .value (.ofScalar v)

open DocSelect.Expr

theorem FieldCondition.fills (c : FieldCondition) :
    Fills (c.expr holeFor) c.values (c.expr boundFor) := by
  intro ws
  cases c <;> rfl

theorem Connective.fills_joined (c : Connective) {parts : List Formula}
    (h : ∀ p ∈ parts, Fills (p.expr holeFor) p.values (p.expr boundFor)) :
    Fills (c.joined (parts.map (Formula.expr holeFor))) (parts.flatMap Formula.values)
      (c.joined (parts.map (Formula.expr boundFor))) := by
  refine Formula.parts_induction ?_ (fun p hp => ?_) (fun p q rest hp ih => hp.make c ih) parts h
  · intro ws
    cases c <;> rfl
  · rw [List.flatMap_cons, List.flatMap_nil, List.append_nil]
    exact hp

/-- The values of a tree fill its placeholders, in order. -/
theorem Formula.fills (p : Formula) : Fills (p.expr holeFor) p.values (p.expr boundFor) := by
  induction p with
  | field c =>
    rw [expr, expr, values]
    exact c.fills
  | all parts ih =>
    rw [expr, expr, values]
    exact Connective.and.fills_joined ih
  | any parts ih =>
    rw [expr, expr, values]
    exact Connective.or.fills_joined ih
  | conjunction parts ih =>
    rw [expr, expr, values]
    exact Connective.and.fills_joined ih

end

/-! ## The meaning of the texts -/

/-- The text spells the expression, by the lexical rules and the grammar. Comments mean nothing. -/
def Expr.SpelledBy (s : List Char) (e : Expr) : Prop :=
  ∃ ts, Token.readAll? s = some ts ∧ Reads (some .disjunction) (ts.filter fun t => t != .comment) e

/-- The reader finds what a text spells. -/
theorem Expr.SpelledBy.ofText? {s : List Char} {e : Expr} (h : SpelledBy s e) :
    Expr.ofText? s = some e := by
  obtain ⟨ts, hts, hreads⟩ := h
  rw [Expr.ofText?, hts]
  exact hreads.ofTokens?

/-- The text of a tree spells an expression that is that of the tree, up to grouping. -/
theorem Formula.spelledBy {chars : Scalar → List Char} {write : Scalar → List Token}
    {read : Scalar → Expr} (hlexes : ∀ v, Token.Lexes Token.Closing (chars v) (write v))
    (hreads : ∀ v, Expr.Reads none (write v) (read v))
    (hcomment : ∀ v, ∀ t ∈ write v, t ≠ .comment) (p : Formula) :
    ∃ e, Expr.SpelledBy (p.toPredicate.render chars) e ∧ e.Regroups (p.expr read) := by
  obtain ⟨e, he, hgroups⟩ := p.reads hreads
  -- there are no comments to leave out
  have hkeep : (p.tokens write).filter (fun t => t != .comment) = p.tokens write := by
    rw [List.filter_eq_self]
    have hfixed : ∀ t : Token, t.isFixed = true → t ≠ .comment := by
      rintro t ht rfl
      cases ht
    have hwritten : Token.Written write write _ _ (p.tokens write) := p.written
    exact fun t ht => bne_iff_ne.2 (hwritten.forall_mem hfixed (fun v _ => hcomment v) t ht)
  refine ⟨e, ⟨p.tokens write, (p.lexes hlexes).readAll? Token.closing_nil, ?_⟩, hgroups⟩
  rw [hkeep]
  exact .tighter he

/-- The text with placeholders spells the expression of the tree, up to grouping. -/
theorem Formula.bound_spelledBy (p : Formula) :
    ∃ e, Expr.SpelledBy p.toPredicate.bound.sql.toList e ∧ e.Regroups (p.expr Expr.holeFor) := by
  have hread (v : Scalar) : Expr.Reads none [.variable ['?']] (Expr.holeFor v) := .atom rfl
  have hcomment (v : Scalar) : ∀ t ∈ [Token.variable ['?']], t ≠ .comment := by
    rintro t ht rfl
    exact absurd ht (by decide)
  rw [Predicate.bound, String.toList_ofList, Predicate.boundChars_eq_render]
  exact p.spelledBy (fun _ => Token.lexes_placeholder) hread hcomment

/-- The predicate has this truth: its text with literals spells one expression only, and so does its
text with placeholders; the value of the first, and of the second with the values bound, is this
truth. -/
structure Predicate.Means (p : Predicate) (t : Interpretation → Option Bool) : Prop where
  /-- The text with literals. -/
  inline : ∃ e, Expr.SpelledBy p.inline.toList e ∧
    (∀ f, Expr.SpelledBy p.inline.toList f → f = e) ∧ p.condition = .ok e ∧
    ∀ i, e.eval i = .ofTruth (t i)
  /-- The text with placeholders. -/
  bound : ∃ e, Expr.SpelledBy p.bound.sql.toList e ∧
    (∀ f, Expr.SpelledBy p.bound.sql.toList f → f = e) ∧
    p.bound.condition = .ok (e.bind p.bound.values) ∧
    ∀ i, (e.bind p.bound.values).eval i = .ofTruth (t i)

/-- The texts of a tree have the truth of the tree. -/
theorem Formula.means (p : Formula) : p.toPredicate.Means fun i => p.truth i where
  inline := by
    have hcomment (v : Scalar) : ∀ t ∈ Literal.tokens v, t ≠ .comment := by
      rintro t ht rfl
      exact absurd (Literal.isInert_of_mem_tokens ht) (by decide)
    obtain ⟨e, he, hgroups⟩ := p.spelledBy Literal.lexes_literal Literal.reads_literal hcomment
    have hchars : p.toPredicate.inline.toList = p.toPredicate.render Literal.chars := by
      rw [Predicate.inline, String.toList_ofList, Predicate.inlineChars_eq_render]
    rw [← hchars] at he
    refine ⟨e, he, fun f hf => Option.some.inj (hf.ofText?.symm.trans he.ofText?), ?_, fun i => ?_⟩
    · have htext := he.ofText?
      rw [Predicate.inline, String.toList_ofList] at htext
      rw [Predicate.condition, htext]
    · rw [hgroups.alike.eval_eq, p.eval_expr (Literal.eval_expr i)]
  bound := by
    obtain ⟨e, he, hgroups⟩ := p.bound_spelledBy
    refine ⟨e, he, fun f hf => Option.some.inj (hf.ofText?.symm.trans he.ofText?), ?_, fun i => ?_⟩
    · rw [BoundPredicate.condition, he.ofText?]
    · -- binding goes through the grouping that was read, and gives the values of the tree
      have hfills := p.fills []
      rw [List.append_nil] at hfills
      rw [Expr.bind, BoundPredicate.values, Predicate.bound, p.params_toPredicate,
        (hgroups.alike _).2, hfills]
      exact p.eval_expr fun v => rfl

/-- The texts of a selector have the truth of the selector. -/
theorem Selector.means (s : Selector) : s.toPredicate.Means fun i => s.truth i := by
  have h := s.formula.means
  simp only [s.toPredicate_formula, s.truth_formula] at h
  exact h

/-- **The texts of a tree, and of a selector, mean its truth**: each of the two texts of a predicate
is read in one way only, and its value is the truth of the tree from which the predicate is built;
a selector is the conjunction of its clauses, and a group of selectors the conjunction or the
disjunction of theirs. -/
theorem Predicate.texts_mean_truth :
    (∀ p : Formula, p.toPredicate.Means fun i => p.truth i) ∧
      ∀ s : Selector, s.toPredicate.Means fun i => s.truth i :=
  ⟨Formula.means, Selector.means⟩

end DocSelect
