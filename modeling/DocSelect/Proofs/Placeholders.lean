import DocSelect.Proofs.TokenStructure
/-!
# Placeholders and their values

The text of a predicate with placeholders, its values and the text with literals belong together
piece by piece: the text between the values is the same in both texts, and for each value there is a
placeholder in the one and a literal in the other. The text between the values has neither a
placeholder nor a digit.

* `Predicate.fill?` : texts put for the placeholders of a text;
* `Predicate.Filled` : a text with placeholders, their values, and the text with the values written;
* `Formula.filled` : **the texts of a tree and its values belong together**;
* `Selector.SameShape.bound_sql` : **the text with placeholders depends only on the shape**;
* `Selector.placeholders_line_up` : **placeholders, parameters and literals line up**.
-/

namespace DocSelect

namespace Predicate

/-- Puts texts for the placeholders of a text, from left to right, one text for each. -/
def fill? : List Char → List (List Char) → Option (List Char)
  | [], texts => if texts.isEmpty then some [] else none
  | c :: s, texts =>
    if c = '?' then texts.head?.bind fun t => (fill? s texts.tail).map (t ++ ·)
    else (fill? s texts).map (c :: ·)

/-- A text with placeholders, the values for them, and the text with the values written. -/
inductive Filled (write : Scalar → List Char) : List Char → List Scalar → List Char → Prop
  /-- No text. -/
  | nil : Filled write [] [] []
  /-- A character between the values. -/
  | char {c : Char} {s s' : List Char} {vs : List Scalar} (hc : isTextChar c = true)
      (h : Filled write s vs s') : Filled write (c :: s) vs (c :: s')
  /-- A placeholder and the value for it. -/
  | value (v : Scalar) {s s' : List Char} {vs : List Scalar} (h : Filled write s vs s') :
      Filled write ('?' :: s) (v :: vs) (write v ++ s')

section

variable {write : Scalar → List Char} {s s' : List Char} {vs : List Scalar}

theorem Filled.text {t : List Char} (ht : t.all isTextChar = true) (h : Filled write s vs s') :
    Filled write (t ++ s) vs (t ++ s') := by
  induction t with
  | nil => exact h
  | cons c t ih =>
    rw [List.all_cons, Bool.and_eq_true] at ht
    exact .char ht.1 (ih ht.2)

theorem ne_placeholder_of_isTextChar {c : Char} (hc : isTextChar c = true) : c ≠ '?' :=
  ne_of_class hc '?' (by decide)

/-- There is one placeholder for each value. -/
theorem Filled.count_placeholder (h : Filled write s vs s') : s.count '?' = vs.length := by
  induction h with
  | nil => rfl
  | char hc _ ih => rw [List.count_cons_of_ne (ne_placeholder_of_isTextChar hc), ih]
  | value v _ ih => rw [List.count_cons_self, ih, List.length_cons]

/-- The written values, put for the placeholders, give the written text. -/
theorem Filled.fill?_eq (h : Filled write s vs s') : fill? s (vs.map write) = some s' := by
  induction h with
  | nil => rfl
  | char hc _ ih =>
    rw [fill?, if_neg (ne_placeholder_of_isTextChar hc), ih]
    rfl
  | value v _ ih =>
    rw [List.map_cons, fill?, if_pos rfl, List.head?_cons, List.tail_cons, Option.bind_some, ih]
    rfl

theorem not_isDigit_of_isTextChar {c : Char} (hc : isTextChar c = true) : c.isDigit = false := by
  rw [isTextChar, Bool.or_eq_true] at hc
  rcases hc with halpha | hmark
  · exact Token.not_isDigit_of_isAlpha halpha
  · simp only [List.contains_eq_mem, List.mem_cons, List.not_mem_nil, or_false,
      decide_eq_true_eq] at hmark
    rcases hmark with rfl | rfl | rfl | rfl | rfl | rfl | rfl | rfl <;> decide

/-- The text with placeholders has no digit. -/
theorem Filled.not_isDigit (h : Filled write s vs s') : ∀ c ∈ s, c.isDigit = false := by
  induction h with
  | nil => exact fun c hc => absurd hc List.not_mem_nil
  | char hc _ ih => exact List.forall_mem_cons.2 ⟨not_isDigit_of_isTextChar hc, ih⟩
  | value v _ ih => exact List.forall_mem_cons.2 ⟨by decide, ih⟩

end

/-- The texts of a predicate and its values belong together, if the text between the values has the
characters for it. -/
theorem filled (write : Scalar → List Char) {p : Predicate}
    (h : (p.render fun _ => []).all isTextChar = true) :
    Filled write p.boundChars p.params (p.render write) := by
  obtain ⟨fragments⟩ := p
  induction fragments with
  | nil => exact .nil
  | cons f fragments ih =>
    rw [render, List.flatMap_cons, List.all_append, Bool.and_eq_true] at h
    cases f with
    | sql t => exact (ih h.2).text h.1
    | value v => exact .value v (ih h.2)

end Predicate

/-- **The texts of a tree and its values belong together.** -/
theorem Formula.filled (write : Scalar → List Char) (p : Formula) :
    Predicate.Filled write p.toPredicate.boundChars p.values (p.toPredicate.render write) := by
  rw [← p.params_toPredicate]
  exact Predicate.filled write p.all_isTextChar

/-! ## The shape -/

section

variable (write : Scalar → List Char)

theorem Predicate.render_joined_cons (word empty : String) (p q : Predicate)
    (rest : List Predicate) :
    (joined word empty (p :: q :: rest)).render write =
      p.render write ++ ((" " ++ word ++ " ").toList ++
        (joined word empty (q :: rest)).render write) := by
  have hjoined : joined word empty (p :: q :: rest) =
      p ++ (text (" " ++ word ++ " ") ++ joined word empty (q :: rest)) := rfl
  rw [hjoined, render_append, render_append, render_text]

/-- The text of joined predicates depends only on the text of each of them. -/
theorem Predicate.render_joined_congr (word empty : String) {ps qs : List Predicate}
    (h : List.Forall₂ (fun p q => p.render write = q.render write) ps qs) :
    (joined word empty ps).render write = (joined word empty qs).render write := by
  induction h with
  | nil => rfl
  | cons hpq hrest ih =>
    cases hrest with
    | nil => exact hpq
    | cons _ _ => rw [render_joined_cons, render_joined_cons, hpq, ih]

end

/-- If all values are written alike, paths and operands do not enter into the text of a clause. -/
theorem Clause.render_blank (v : List Char) (c : Clause) :
    (c.blank.toPredicate.render fun _ => v) = c.toPredicate.render fun _ => v := by
  have hobject {s : List Clause} (ih : ∀ c ∈ s,
      (c.blank.toPredicate.render fun _ => v) = c.toPredicate.render fun _ => v) :
      ((Predicate.all ((s.map blank).map toPredicate)).render fun _ => v) =
        (Predicate.all (s.map toPredicate)).render fun _ => v := by
    rw [Predicate.all, Predicate.all, Formula.render_grouped, Formula.render_grouped,
      Predicate.render_joined_congr]
    rw [List.map_map, List.forall₂_map_left_iff, List.forall₂_map_right_iff, List.forall₂_same]
    exact ih
  have hgroup (word empty : String) {selectors : List (List Clause)}
      (ih : ∀ s ∈ selectors, ∀ c ∈ s,
        (c.blank.toPredicate.render fun _ => v) = c.toPredicate.render fun _ => v) :
      ((Predicate.grouped (.joined word empty
        (elementPredicates (selectors.map fun s => s.map blank)))).render fun _ => v) =
        (Predicate.grouped (.joined word empty (elementPredicates selectors))).render
          fun _ => v := by
    rw [Formula.render_grouped, Formula.render_grouped, Predicate.render_joined_congr]
    rw [elementPredicates_eq, elementPredicates_eq, List.map_map, List.forall₂_map_left_iff,
      List.forall₂_map_right_iff, List.forall₂_same]
    intro s hs
    exact hobject (ih s hs)
  induction c with
  | equals path w =>
    rw [blank, toPredicate, toPredicate, FieldCondition.render_compare,
      FieldCondition.render_compare]
    rfl
  | field path test =>
    cases test with
    | compare op w =>
      rw [blank, toPredicate, toPredicate, FieldCondition.render_compare,
        FieldCondition.render_compare]
      rfl
    | present b =>
      rw [blank, toPredicate, toPredicate, FieldCondition.render_present,
        FieldCondition.render_present]
      rfl
  | all selectors ih =>
    rw [blank, toPredicate, toPredicate]
    exact hgroup "AND" "TRUE" ih
  | any selectors ih =>
    rw [blank, toPredicate, toPredicate]
    exact hgroup "OR" "FALSE" ih
  | directive d path =>
    cases d with
    | «exists» =>
      rw [blank, toPredicate, toPredicate, FieldCondition.render_present,
        FieldCondition.render_present]
      rfl
    | null | notNull =>
      rw [blank, toPredicate, toPredicate, FieldCondition.render_isNull,
        FieldCondition.render_isNull]
      rfl

namespace Selector

/-- The text of a selector with all values written alike is that of its shape. -/
theorem render_blank (v : List Char) (s : Selector) :
    (toPredicate (s.map Clause.blank)).render (fun _ => v) = s.toPredicate.render fun _ => v := by
  rw [toPredicate, toPredicate, predicates_eq_map, predicates_eq_map]
  apply Predicate.render_joined_congr
  rw [List.map_map, List.forall₂_map_left_iff, List.forall₂_map_right_iff, List.forall₂_same]
  exact fun c _ => c.render_blank v

/-- **The text with placeholders depends only on the shape.** -/
theorem SameShape.bound_sql {s t : Selector} (h : s.SameShape t) :
    t.toPredicate.bound.sql = s.toPredicate.bound.sql := by
  rw [Predicate.bound, Predicate.bound, Predicate.boundChars_eq_render,
    Predicate.boundChars_eq_render, ← s.render_blank, ← t.render_blank, h]

/-- **Placeholders, parameters and literals line up.** The text with placeholders has one for each
parameter, and no digit behind it. The parameters are the paths and operands of the selector, from
left to right. Their literals, put for the placeholders, give the text with literals. Selectors that
differ only in paths and operands have the same text with placeholders. -/
theorem placeholders_line_up (s : Selector) :
    s.toPredicate.bound.sql.toList.count '?' = s.toPredicate.bound.params.length ∧
      s.toPredicate.bound.params.length = s.toPredicate.paramCount ∧
      (∀ before c after, s.toPredicate.bound.sql.toList = before ++ '?' :: c :: after →
        c.isDigit = false) ∧
      s.toPredicate.bound.params = s.values ∧
      Predicate.fill? s.toPredicate.bound.sql.toList
          (s.toPredicate.bound.params.map fun v => (Literal.ofScalar v).toList) =
        some s.toPredicate.inline.toList ∧
      ∀ t : Selector, s.SameShape t → t.toPredicate.bound.sql = s.toPredicate.bound.sql := by
  have hfilled := s.formula.filled Literal.chars
  rw [s.toPredicate_formula, s.values_formula, ← Predicate.inlineChars_eq_render] at hfilled
  have hsql : s.toPredicate.bound.sql.toList = s.toPredicate.boundChars := String.toList_ofList
  have hparams : s.toPredicate.bound.params = s.values := s.params_toPredicate
  rw [hsql, hparams]
  refine ⟨hfilled.count_placeholder, ?count, ?digit, rfl, ?fill, fun t h => h.bound_sql⟩
  case count => rw [Predicate.paramCount, s.params_toPredicate]
  case digit =>
    intro before c after h
    apply hfilled.not_isDigit c
    rw [h]
    simp
  case fill =>
    simp only [Literal.toList_ofScalar]
    rw [hfilled.fill?_eq, Predicate.inline, String.toList_ofList]

/-- Placeholders and quotes in a path and in an operand, in a group of two selectors. -/
theorem placeholders_line_up_quotes :
    (∃ before c after, (toPredicate [.any [[.equals "a?1" (.string "'?'")], []]]).bound.sql.toList =
      before ++ '?' :: c :: after ∧ c.isDigit = false) ∧
    (toPredicate [.any [[.equals "b" (.number .zero)], []]]).bound.sql =
      (toPredicate [.any [[.equals "a?1" (.string "'?'")], []]]).bound.sql := by
  have htext : (toPredicate [.any [[.equals "a?1" (.string "'?'")], []]]).bound.sql.toList =
      "( ( ( json_extract(value, ".toList ++ '?' :: ')' :: " = ? ) ) OR ( TRUE ) )".toList := by
    decide
  have hshape : SameShape [.any [[.equals "a?1" (.string "'?'")], []]]
      [.any [[.equals "b" (.number .zero)], []]] := by
    simp [SameShape, Clause.blank]
  have hline := placeholders_line_up [.any [[.equals "a?1" (.string "'?'")], []]]
  exact ⟨⟨_, _, _, htext, hline.2.2.1 _ _ _ htext⟩, hline.2.2.2.2.2 _ hshape⟩

end Selector

end DocSelect
