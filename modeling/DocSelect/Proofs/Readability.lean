import DocSelect.Proofs.Meaning
import DocSelect.Proofs.TokenStructure
/-!
# The predicate of a selector determines the selector

Some clauses say the same in two ways: an equality is a comparison, the directive for presence is a
test for presence, and a group of one selector is the same whether all hold or one holds. With these
ways made one, the text with placeholders and its parameters tell the selector. The tokens of a
clause tell where the clause ends, since each clause is in parentheses, and so do those of a list of
clauses with words between them.

* `Clause.normal`, `Selector.normal` : the clauses with one way for each test;
* `Clause.toPredicate_normal` : the ways compile to the same predicate;
* `Legible` : an item and what follows it are told from their tokens and values;
* `legible_joined` : **items with words between them are legible if each item is**;
* `Clause.legible` : **clauses are legible**;
* `Selector.bound_eq_iff` : **selectors compile alike just if their normal forms are the same**.
-/

namespace DocSelect

/-! ## One way for each test -/

/-- The clause with one way for each test, at every depth: an equality as a comparison, the
directive for presence as a test, and one selector as a group of which all hold. -/
def Clause.normal : Clause → Clause
  | .equals path v => .field path (.compare .eq v)
  | .field path test => .field path test
  | .all selectors => .all (selectors.map fun s => s.map normal)
  | .any selectors =>
    if selectors.length = 1 then .all (selectors.map fun s => s.map normal)
    else .any (selectors.map fun s => s.map normal)
  | .directive .exists path => .field path (.present true)
  | .directive .null path => .directive .null path
  | .directive .notNull path => .directive .notNull path
decreasing_by
  all_goals
    have hlt := sizeOf_lt_of_mem ‹_ ∈ _› ‹_ ∈ selectors›
    simp
    omega

/-- The selector with one way for each test, at every depth. -/
def Selector.normal (s : Selector) : Selector := s.map Clause.normal

/-- With one predicate the word between the predicates is not used. -/
theorem Predicate.all_singleton (p : Predicate) : Predicate.all [p] = Predicate.any [p] := rfl

namespace Clause

/-- The ways of a test compile to the same predicate. -/
theorem toPredicate_normal (c : Clause) : c.normal.toPredicate = c.toPredicate := by
  have hgroup {selectors : List (List Clause)}
      (ih : ∀ s ∈ selectors, ∀ c ∈ s, c.normal.toPredicate = c.toPredicate) :
      elementPredicates (selectors.map fun s => s.map normal) = elementPredicates selectors := by
    rw [elementPredicates_eq, elementPredicates_eq, List.map_map]
    simp only [Function.comp_def, List.map_map]
    exact map_elements_congr Predicate.all ih
  induction c with
  | equals path v => rw [normal, toPredicate, toPredicate]
  | field path test => rw [normal]
  | all selectors ih => rw [normal, toPredicate, toPredicate, hgroup ih]
  | any selectors ih =>
    rw [normal, toPredicate]
    split
    · next hone =>
      obtain ⟨s, rfl⟩ := List.length_eq_one_iff.1 hone
      rw [toPredicate, hgroup ih]
      exact Predicate.all_singleton _
    · rw [toPredicate, hgroup ih]
  | directive d path =>
    cases d with
    | «exists» => rw [normal, toPredicate, toPredicate]
    | null | notNull => rw [normal]

end Clause

/-- The ways of a test compile to the same predicate, at every depth. -/
theorem Selector.toPredicate_normal (s : Selector) : s.normal.toPredicate = s.toPredicate := by
  rw [toPredicate, toPredicate, predicates_eq_map, predicates_eq_map, normal, List.map_map]
  congr 1
  exact List.map_congr_left fun c _ => c.toPredicate_normal

/-! ## Items that are told from their tokens and values -/

section

variable {α β : Type} (tokens : α → List Token) (values : α → List Scalar) (normal : α → β)

/-- The tokens and values of the item and of what follows it tell the item, in normal form, and what
follows it. -/
def Legible (a : α) : Prop :=
  ∀ (b : α) (ts us : List Token) (vs ws : List Scalar), tokens a ++ ts = tokens b ++ us →
    values a ++ vs = values b ++ ws → normal a = normal b ∧ ts = us ∧ vs = ws

end

/-- What follows the first of several lists of tokens with a word between them. -/
def joinedRest (word empty : String) : List (List Token) → List Token
  | [] => []
  | ts :: rest => .word word.toList :: joinedTokens word empty (ts :: rest)

theorem joinedTokens_cons (word empty : String) (ts : List Token) (rest : List (List Token)) :
    joinedTokens word empty (ts :: rest) = ts ++ joinedRest word empty rest := by
  cases rest with
  | nil => exact (List.append_nil ts).symm
  | cons _ _ => rfl

/-- What goes on with no word. -/
def Token.StartsNoWord (ts : List Token) : Prop := ∀ w us, ts ≠ .word w :: us

theorem Connective.eq_of_empty {k k' : Connective} (h : k.empty.toList = k'.empty.toList) :
    k = k' := by
  cases k <;> cases k' <;> first | rfl | exact absurd h (by decide)

theorem Connective.eq_of_word {k k' : Connective} (h : k.word.toList = k'.word.toList) :
    k = k' := by
  cases k <;> cases k' <;> first | rfl | exact absurd h (by decide)

/-- **Items with words between them are legible if each item is**, and so is the word, unless there
is only one item. -/
theorem legible_joined {α β : Type} {tokens : α → List Token} {values : α → List Scalar}
    {normal : α → β} (hopen : ∀ a, ∃ ts, tokens a = .sign ['('] :: ts) {k k' : Connective}
    {as bs : List α} {ts us : List Token} {vs ws : List Scalar}
    (h : ∀ a ∈ as, Legible tokens values normal a) (hts : Token.StartsNoWord ts)
    (hus : Token.StartsNoWord us)
    (htokens : joinedTokens k.word k.empty (as.map tokens) ++ ts =
      joinedTokens k'.word k'.empty (bs.map tokens) ++ us)
    (hvalues : as.flatMap values ++ vs = bs.flatMap values ++ ws) :
    as.map normal = bs.map normal ∧ (as.length = 1 ∨ k = k') ∧ ts = us ∧ vs = ws := by
  induction as generalizing bs with
  | nil =>
    cases bs with
    | nil =>
      obtain ⟨hempty, htokens⟩ := List.cons.inj htokens
      exact ⟨rfl, .inr (Connective.eq_of_empty (Token.word.inj hempty)), htokens, hvalues⟩
    | cons b bs =>
      obtain ⟨_, hb⟩ := hopen b
      rw [List.map_cons, joinedTokens_cons, hb] at htokens
      cases (List.cons.inj htokens).1
  | cons a as ih =>
    cases bs with
    | nil =>
      obtain ⟨_, ha⟩ := hopen a
      rw [List.map_cons, joinedTokens_cons, ha] at htokens
      cases (List.cons.inj htokens).1
    | cons b bs =>
      rw [List.forall_mem_cons] at h
      rw [List.map_cons, List.map_cons, joinedTokens_cons, joinedTokens_cons, List.append_assoc,
        List.append_assoc] at htokens
      rw [List.flatMap_cons, List.flatMap_cons, List.append_assoc, List.append_assoc] at hvalues
      obtain ⟨hnormal, htokens, hvalues⟩ := h.1 b _ _ _ _ htokens hvalues
      rw [List.map_cons, List.map_cons, hnormal]
      -- a word follows if there are more items, and no word follows if there are none
      cases as with
      | nil =>
        cases bs with
        | nil => exact ⟨rfl, .inl rfl, htokens, hvalues⟩
        | cons b' bs => exact (hts _ _ htokens).elim
      | cons a' as =>
        cases bs with
        | nil => exact (hus _ _ htokens.symm).elim
        | cons b' bs =>
          obtain ⟨hword, htokens⟩ := List.cons.inj htokens
          have hjoined : joinedTokens k.word k.empty ((a' :: as).map tokens) ++ ts =
              joinedTokens k'.word k'.empty ((b' :: bs).map tokens) ++ us := htokens
          obtain ⟨hrest, -, hts, hvs⟩ := ih h.2 hjoined hvalues
          rw [hrest]
          exact ⟨rfl, .inr (Connective.eq_of_word (Token.word.inj hword)), hts, hvs⟩

/-! ## Conditions on one field -/

theorem Comparison.token_injective {op op' : Comparison} (h : op.token = op'.token) : op = op' := by
  cases op <;> cases op' <;> first | rfl | exact absurd h (by decide)

namespace FieldCondition

/-- The condition as a clause. -/
def clause : FieldCondition → Clause
  | compare path op operand => .field path (.compare op operand)
  | present path expected => .field path (.present expected)
  | isNull path true => .directive .null path
  | isNull path false => .directive .notNull path

/-- The tokens of the condition in a text with placeholders. -/
def boundTokens (c : FieldCondition) : List Token := c.tokens fun _ => [Token.placeholder]

/-- The function that the condition calls. -/
def function : FieldCondition → JsonFunction
  | compare _ _ _ => .extract
  | present _ _ => .typeOf
  | isNull _ _ => .extract

/-- The tokens behind the call. -/
def tailTokens : FieldCondition → List Token
  | compare _ op _ => [op.token, Token.placeholder]
  | present _ expected => nullTokens !expected
  | isNull _ null => nullTokens null

theorem boundTokens_append (c : FieldCondition) (ts : List Token) :
    c.boundTokens ++ ts =
      .sign ['('] :: .word c.function.name.toList :: .sign ['('] :: .word valueColumn.toList ::
        .sign [','] :: Token.placeholder :: .sign [')'] ::
          (c.tailTokens ++ .sign [')'] :: ts) := by
  cases c <;> simp [boundTokens, tokens, group, callTokens, function, tailTokens]

/-- No comparison starts like a test for null. -/
theorem token_ne_nullTokens (op : Comparison) (null : Bool) (ts us : List Token) :
    op.token :: ts ≠ nullTokens null ++ us := by
  intro h
  have hne : op.token ≠ .word "IS".toList := by cases op <;> decide
  cases null <;> exact hne (List.cons.inj h).1

theorem nullTokens_injective {null null' : Bool} {ts us : List Token}
    (h : nullTokens null ++ .sign [')'] :: ts = nullTokens null' ++ .sign [')'] :: us) :
    null = null' ∧ ts = us := by
  cases null <;> cases null' <;> simp_all [nullTokens]

/-- **A condition on one field is legible**: the function and what stands behind its call tell the
test, and the values tell the path and the operand. -/
theorem legible (c : FieldCondition) : Legible boundTokens values clause c := by
  intro d ts us vs ws htokens hvalues
  rw [boundTokens_append, boundTokens_append] at htokens
  simp only [List.cons.injEq, Token.word.injEq, true_and] at htokens
  obtain ⟨hname, htail⟩ := htokens
  have hfunctions : JsonFunction.extract.name.toList ≠ JsonFunction.typeOf.name.toList := by decide
  have hpath {path path' : String} {vs ws : List Scalar}
      (h : Scalar.string path :: vs = .string path' :: ws) : path = path' ∧ vs = ws :=
    ⟨Scalar.string.inj (List.cons.inj h).1, (List.cons.inj h).2⟩
  cases c with
  | compare path op operand =>
    cases d with
    | compare path' op' operand' =>
      obtain ⟨rfl, hrest⟩ := hpath hvalues
      obtain ⟨rfl, hvs⟩ := List.cons.inj hrest
      obtain ⟨hop, htail⟩ := List.cons.inj htail
      rw [Comparison.token_injective hop]
      exact ⟨rfl, (List.cons.inj (List.cons.inj htail).2).2, hvs⟩
    | present path' expected' => exact (hfunctions hname).elim
    | isNull path' null' => exact (token_ne_nullTokens op null' _ _ htail).elim
  | present path expected =>
    cases d with
    | compare path' op' operand' => exact (hfunctions hname.symm).elim
    | present path' expected' =>
      obtain ⟨rfl, hvs⟩ := hpath hvalues
      obtain ⟨hexpected, hts⟩ := nullTokens_injective htail
      rw [Bool.not_inj hexpected]
      exact ⟨rfl, hts, hvs⟩
    | isNull path' null' => exact (hfunctions hname.symm).elim
  | isNull path null =>
    cases d with
    | compare path' op' operand' => exact (token_ne_nullTokens op' null _ _ htail.symm).elim
    | present path' expected' => exact (hfunctions hname).elim
    | isNull path' null' =>
      obtain ⟨rfl, hvs⟩ := hpath hvalues
      obtain ⟨rfl, hts⟩ := nullTokens_injective htail
      exact ⟨rfl, hts, hvs⟩

end FieldCondition

/-! ## Clauses and selectors -/

/-- The group of selectors as a clause. -/
def Connective.clause : Connective → List (List Clause) → Clause
  | and => .all
  | or => .any

namespace Clause

/-- The tokens of the clause in a text with placeholders. -/
def boundTokens (c : Clause) : List Token := c.formula.tokens fun _ => [Token.placeholder]

/-- The tokens of a selector in a group, in a text with placeholders. -/
def elementTokens (s : List Clause) : List Token :=
  FieldCondition.group
    (joinedTokens Connective.and.word Connective.and.empty (s.map boundTokens))

/-- A clause is a condition on one field or a group of selectors. -/
theorem condition_or_group (c : Clause) :
    (∃ k : FieldCondition, c.boundTokens = k.boundTokens ∧ c.values = k.values ∧
      c.normal = k.clause) ∨ ∃ (k : Connective) (ss : List (List Clause)), c = k.clause ss := by
  have hfield {k : FieldCondition} (hk : c.formula = .field k) (hnormal : c.normal = k.clause) :
      ∃ k : FieldCondition, c.boundTokens = k.boundTokens ∧ c.values = k.values ∧
        c.normal = k.clause := by
    refine ⟨k, ?_, ?_, hnormal⟩
    · rw [boundTokens, hk, Formula.tokens]
      rfl
    · rw [← c.values_formula, hk, Formula.values]
  cases c with
  | equals path v => exact .inl (hfield (by rw [formula]) (by rw [normal]; rfl))
  | field path test =>
    cases test with
    | compare op v => exact .inl (hfield (by rw [formula]) (by rw [normal]; rfl))
    | present b => exact .inl (hfield (by rw [formula]) (by rw [normal]; rfl))
  | all ss => exact .inr ⟨.and, ss, rfl⟩
  | any ss => exact .inr ⟨.or, ss, rfl⟩
  | directive d path =>
    cases d with
    | «exists» => exact .inl (hfield (by rw [formula]) (by rw [normal]; rfl))
    | null => exact .inl (hfield (by rw [formula]) (by rw [normal]; rfl))
    | notNull => exact .inl (hfield (by rw [formula]) (by rw [normal]; rfl))

theorem boundTokens_group (k : Connective) (ss : List (List Clause)) :
    (k.clause ss).boundTokens =
      FieldCondition.group (joinedTokens k.word k.empty (ss.map elementTokens)) := by
  have helement (s : List Clause) :
      (Formula.all (s.map formula)).tokens (fun _ => [Token.placeholder]) = elementTokens s := by
    rw [Formula.tokens, List.map_map]
    rfl
  cases k
  all_goals
    rw [boundTokens, Connective.clause, formula, Formula.tokens, List.map_map]
    simp only [Function.comp_def, helement]
    rfl

theorem values_group (k : Connective) (ss : List (List Clause)) :
    (k.clause ss).values = ss.flatMap fun s => s.flatMap values := by
  cases k <;> rw [Connective.clause, values]

/-- Which group it is does not matter for one selector. -/
theorem normal_group (k : Connective) (ss : List (List Clause)) :
    (k.clause ss).normal =
      if ss.length = 1 then .all (ss.map fun s => s.map normal)
      else k.clause (ss.map fun s => s.map normal) := by
  cases k
  · rw [Connective.clause, normal, ite_self]
  · rw [Connective.clause, normal]

/-- The tokens of a clause start with a parenthesis. -/
theorem exists_boundTokens_cons (c : Clause) : ∃ ts, c.boundTokens = .sign ['('] :: ts := by
  rcases c.condition_or_group with ⟨k, hk, -, -⟩ | ⟨k, ss, rfl⟩
  · have happend := k.boundTokens_append []
    rw [List.append_nil, ← hk] at happend
    exact ⟨_, happend⟩
  · exact ⟨_, boundTokens_group k ss⟩

/-- A condition on one field starts with the name of a function, and a group does not. -/
theorem condition_ne_group (c : FieldCondition) (k : Connective) (ss : List (List Clause))
    (ts us : List Token) : c.boundTokens ++ ts ≠ (k.clause ss).boundTokens ++ us := by
  intro h
  rw [c.boundTokens_append, boundTokens_group] at h
  have hsecond := (List.cons.inj h).2
  cases ss with
  | nil =>
    have hempty := Token.word.inj (List.cons.inj hsecond).1
    have hne (f : JsonFunction) : f.name.toList ≠ k.empty.toList := by
      cases f <;> cases k <;> decide
    exact hne _ hempty
  | cons s ss =>
    rw [List.map_cons, joinedTokens_cons] at hsecond
    cases (List.cons.inj hsecond).1

theorem group_append (ts us : List Token) :
    FieldCondition.group ts ++ us = .sign ['('] :: (ts ++ .sign [')'] :: us) := by
  rw [FieldCondition.group, List.cons_append, List.append_assoc, List.singleton_append]

/-- A closing parenthesis is no word. -/
theorem startsNoWord_close (ts : List Token) : Token.StartsNoWord (.sign [')'] :: ts) := by
  intro w us h
  cases (List.cons.inj h).1

/-- A selector in a group is legible if its clauses are. -/
theorem legible_element {s : List Clause} (h : ∀ c ∈ s, Legible boundTokens values normal c) :
    Legible elementTokens (fun s => s.flatMap values) (fun s => s.map normal) s := by
  intro t ts us vs ws htokens hvalues
  rw [elementTokens, elementTokens, group_append, group_append] at htokens
  obtain ⟨hnormal, -, hts, hvs⟩ := legible_joined exists_boundTokens_cons h
    (startsNoWord_close ts) (startsNoWord_close us) (List.cons.inj htokens).2 hvalues
  exact ⟨hnormal, (List.cons.inj hts).2, hvs⟩

/-- A group is legible if the clauses in it are. -/
theorem legible_group (k : Connective) {ss : List (List Clause)}
    (h : ∀ s ∈ ss, ∀ c ∈ s, Legible boundTokens values normal c) :
    Legible boundTokens values normal (k.clause ss) := by
  intro d ts us vs ws htokens hvalues
  rcases d.condition_or_group with ⟨c, hc, -, -⟩ | ⟨k', ss', rfl⟩
  · rw [hc] at htokens
    exact (condition_ne_group c k ss us ts htokens.symm).elim
  · rw [boundTokens_group, boundTokens_group, group_append, group_append] at htokens
    rw [values_group, values_group] at hvalues
    obtain ⟨hnormal, hk, hts, hvs⟩ := legible_joined (fun s => ⟨_, rfl⟩)
      (fun s hs => legible_element (h s hs)) (startsNoWord_close ts) (startsNoWord_close us)
      (List.cons.inj htokens).2 hvalues
    refine ⟨?_, (List.cons.inj hts).2, hvs⟩
    -- the selectors are as many, and with one of them the word does not matter
    have hlength : ss.length = ss'.length := by
      simpa using congrArg List.length hnormal
    rw [normal_group, normal_group, hnormal, ← hlength]
    split
    · rfl
    · next hone => rw [hk.resolve_left hone]

/-- **A clause is legible.** -/
theorem legible (c : Clause) : Legible boundTokens values normal c := by
  have hcondition {c : Clause} (hc : ∀ (k : Connective) (ss : List (List Clause)),
      c ≠ k.clause ss) : Legible boundTokens values normal c := by
    intro d ts us vs ws htokens hvalues
    rcases c.condition_or_group with ⟨k, hk, hkvalues, hknormal⟩ | ⟨k, ss, rfl⟩
    · rcases d.condition_or_group with ⟨l, hl, hlvalues, hlnormal⟩ | ⟨l, ss, rfl⟩
      · rw [hk, hl] at htokens
        rw [hkvalues, hlvalues] at hvalues
        rw [hknormal, hlnormal]
        exact k.legible l ts us vs ws htokens hvalues
      · rw [hk] at htokens
        exact (condition_ne_group k l ss ts us htokens).elim
    · exact (hc k ss rfl).elim
  induction c with
  | equals _ _ | field _ _ | directive _ _ =>
    apply hcondition
    intro k ss
    cases k <;> simp [Connective.clause]
  | all ss ih => exact legible_group .and ih
  | any ss ih => exact legible_group .or ih

end Clause

namespace Selector

/-- The tokens of the text with placeholders are those of the clauses, with a word between them. -/
theorem readAll?_bound_eq (s : Selector) :
    Token.readAll? s.toPredicate.bound.sql.toList =
      some (joinedTokens Connective.and.word Connective.and.empty
        (s.map Clause.boundTokens)) := by
  rw [s.readAll?_bound, formula, Formula.tokens, List.map_map]
  rfl

/-- **The predicate of a selector determines the selector.** Two selectors have the same text with
placeholders and the same parameters just if their normal forms are the same. -/
theorem bound_eq_iff (s t : Selector) :
    s.toPredicate.bound = t.toPredicate.bound ↔ s.normal = t.normal := by
  constructor
  · intro h
    have htokens := s.readAll?_bound_eq
    rw [h, t.readAll?_bound_eq] at htokens
    have hvalues := congrArg BoundPredicate.params h
    rw [Predicate.bound, Predicate.bound, s.params_toPredicate, t.params_toPredicate] at hvalues
    have hnil : Token.StartsNoWord [] := by
      intro w us h
      cases h
    have hlegible := legible_joined Clause.exists_boundTokens_cons
      (fun c (_ : c ∈ s) => c.legible) hnil hnil
      (congrArg (· ++ []) (Option.some.inj htokens).symm) (congrArg (· ++ []) hvalues)
    exact hlegible.1
  · intro h
    rw [← s.toPredicate_normal, ← t.toPredicate_normal, h]

end Selector

end DocSelect
