import DocSelect.Proofs.Meaning
import Mathlib.Data.List.Perm.Basic
import Mathlib.Logic.Relation
/-!
# Rearranged selectors

The order of clauses, the order of the selectors of a group, and the grouping by a group of which
all hold do not matter, at any depth: three-valued conjunction and disjunction are associative and
commutative, a group in parentheses is one operand, and a group of nothing is the neutral operand.

* `Selector.Permuted`, `Selector.Regrouped` : one change in one selector;
* `Selector.Inside` : one such change in the selector or in a selector of a group, at any depth;
* `Selector.Reordered`, `Selector.Rearranged` : any number of such changes;
* `Selector.Rearranged.truth_eq`, `Selector.Reordered.perm_values` : what a whole run of changes
  keeps, from what each of them keeps;
* `Selector.rearranged_texts` : **rearranged selectors have texts of the same value**, and the
  parameters of reordered ones are the same up to order.
-/

namespace DocSelect

/-! ## Three-valued logic over rearranged lists -/

/-- Conjunction depends neither on the order of its operands nor on how they group. -/
theorem kleeneAnd_left_comm (a b c : Option Bool) :
    kleeneAnd a (kleeneAnd b c) = kleeneAnd b (kleeneAnd a c) := by
  rcases a with _ | _ | _ <;> rcases b with _ | _ | _ <;> rcases c with _ | _ | _ <;> rfl

theorem kleeneOr_left_comm (a b c : Option Bool) :
    kleeneOr a (kleeneOr b c) = kleeneOr b (kleeneOr a c) := by
  rcases a with _ | _ | _ <;> rcases b with _ | _ | _ <;> rcases c with _ | _ | _ <;> rfl

/-- So a group of conditions that are all to hold may be put in any order. -/
theorem kleeneAll_perm {ts us : List (Option Bool)} (h : ts.Perm us) :
    kleeneAll ts = kleeneAll us :=
  h.foldr_eq' (fun x _ y _ z => kleeneAnd_left_comm y x z) _

/-- A group of which one is to hold may be as well. -/
theorem kleeneAny_perm {ts us : List (Option Bool)} (h : ts.Perm us) :
    kleeneAny ts = kleeneAny us :=
  h.foldr_eq' (fun x _ y _ z => kleeneOr_left_comm y x z) _

namespace Selector

/-! ## Changes -/

/-- One change of order: of the clauses, or of the selectors of one group. -/
inductive Permuted : Selector → Selector → Prop
  /-- The clauses change places. -/
  | clauses {s t : Selector} (h : s.Perm t) : Permuted s t
  /-- The selectors of a group, of which all hold, change places. -/
  | allElements {ss ts : List Selector} (before after : Selector) (h : ss.Perm ts) :
    Permuted (before ++ .all ss :: after) (before ++ .all ts :: after)
  /-- The selectors of a group, of which one holds, change places. -/
  | anyElements {ss ts : List Selector} (before after : Selector) (h : ss.Perm ts) :
    Permuted (before ++ .any ss :: after) (before ++ .any ts :: after)

/-- One change of order or of grouping. -/
inductive Regrouped : Selector → Selector → Prop
  /-- A change of order. -/
  | permuted {s t : Selector} (h : Permuted s t) : Regrouped s t
  /-- A group gives way to the clauses of all its selectors. -/
  | splice (before after : Selector) (ss : List Selector) :
    Regrouped (before ++ .all ss :: after) (before ++ ss.flatten ++ after)
  /-- Clauses give way to a group that has them, in one selector or in several ones. -/
  | wrap (before after : Selector) (ss : List Selector) :
    Regrouped (before ++ ss.flatten ++ after) (before ++ .all ss :: after)

/-- One change, in the selector itself or in one of the selectors of a group, at any depth. -/
inductive Inside (change : Selector → Selector → Prop) : Selector → Selector → Prop
  /-- In the selector itself. -/
  | here {s t : Selector} (h : change s t) : Inside change s t
  /-- In a selector of a group of which all hold. -/
  | all {s t : Selector} (before after : Selector) (left right : List Selector)
    (h : Inside change s t) :
    Inside change (before ++ .all (left ++ s :: right) :: after)
      (before ++ .all (left ++ t :: right) :: after)
  /-- In a selector of a group of which one holds. -/
  | any {s t : Selector} (before after : Selector) (left right : List Selector)
    (h : Inside change s t) :
    Inside change (before ++ .any (left ++ s :: right) :: after)
      (before ++ .any (left ++ t :: right) :: after)

/-- Any number of changes of order, at any depth. -/
def Reordered : Selector → Selector → Prop := Relation.ReflTransGen (Inside Permuted)

/-- Any number of changes of order or of grouping, at any depth. -/
def Rearranged : Selector → Selector → Prop := Relation.ReflTransGen (Inside Regrouped)

/-! ## The truth of rearranged selectors -/

section

variable {i : Interpretation}

/-- Clauses behind one another hold if the ones and the others do. -/
theorem truth_append (s t : Selector) :
    truth i (s ++ t) = kleeneAnd (s.truth i) (t.truth i) := by
  rw [truth, List.map_append, kleeneAll_append]
  rfl

theorem truth_cons (c : Clause) (s : Selector) :
    truth i (c :: s) = kleeneAnd (c.truth i) (s.truth i) := rfl

theorem truth_all (ss : List Selector) :
    Clause.truth i (.all ss) = kleeneAll (ss.map (truth i)) := by
  rw [Clause.truth]
  rfl

theorem truth_any (ss : List Selector) :
    Clause.truth i (.any ss) = kleeneAny (ss.map (truth i)) := by
  rw [Clause.truth]
  rfl

/-- The clauses of several selectors hold if each of the selectors does. -/
theorem truth_flatten (ss : List Selector) :
    truth i ss.flatten = kleeneAll (ss.map (truth i)) := by
  induction ss with
  | nil => rfl
  | cons s ss ih => rw [List.flatten_cons, truth_append, ih, List.map_cons, kleeneAll_cons]

/-- Only the truth of a clause among the others matters. -/
theorem truth_replace {c d : Clause} (h : c.truth i = d.truth i) (before after : Selector) :
    truth i (before ++ c :: after) = truth i (before ++ d :: after) := by
  rw [truth_append, truth_append, truth_cons, truth_cons, h]

/-- Putting clauses, or the parts of a group, in another order changes no truth, under any
interpretation. -/
theorem Permuted.truth_eq {s t : Selector} (h : Permuted s t) : s.truth i = t.truth i := by
  cases h with
  | clauses h => exact kleeneAll_perm (h.map _)
  | allElements before after h =>
    refine truth_replace ?_ before after
    rw [truth_all, truth_all]
    exact kleeneAll_perm (h.map _)
  | anyElements before after h =>
    refine truth_replace ?_ before after
    rw [truth_any, truth_any]
    exact kleeneAny_perm (h.map _)

/-- A group has the truth of the clauses of its selectors. -/
theorem truth_spliced (before after : Selector) (ss : List Selector) :
    truth i (before ++ .all ss :: after) = truth i (before ++ ss.flatten ++ after) := by
  rw [truth_append, truth_cons, truth_all, truth_append, truth_append, truth_flatten,
    kleeneAnd_assoc]

/-- Taking a group apart whose conditions all are to hold, or putting one around clauses, changes no
truth. -/
theorem Regrouped.truth_eq {s t : Selector} (h : Regrouped s t) : s.truth i = t.truth i := by
  cases h with
  | permuted h => exact h.truth_eq
  | splice before after ss => exact truth_spliced before after ss
  | wrap before after ss => exact (truth_spliced before after ss).symm

/-- A change that keeps the truth of a selector keeps it at any depth. -/
theorem Inside.truth_eq {change : Selector → Selector → Prop}
    (hchange : ∀ s t, change s t → s.truth i = t.truth i) {s t : Selector}
    (h : Inside change s t) : s.truth i = t.truth i := by
  induction h with
  | here h => exact hchange _ _ h
  | all before after left right _ ih =>
    refine truth_replace ?_ before after
    rw [truth_all, truth_all, List.map_append, List.map_append, List.map_cons, List.map_cons, ih]
  | any before after left right _ ih =>
    refine truth_replace ?_ before after
    rw [truth_any, truth_any, List.map_append, List.map_append, List.map_cons, List.map_cons, ih]

/-- **Rearranged selectors have the same truth.** -/
theorem Rearranged.truth_eq {s t : Selector} (h : s.Rearranged t) : s.truth i = t.truth i := by
  induction h with
  | refl => rfl
  | tail _ hstep ih => exact ih.trans (hstep.truth_eq fun _ _ => Regrouped.truth_eq)

end

/-! ## The values of reordered selectors -/

theorem values_all (ss : List Selector) : Clause.values (.all ss) = ss.flatMap values := by
  rw [Clause.values]
  rfl

theorem values_any (ss : List Selector) : Clause.values (.any ss) = ss.flatMap values := by
  rw [Clause.values]
  rfl

/-- Only the values of a clause among the others matter. -/
theorem perm_values_replace {c d : Clause} (h : c.values.Perm d.values)
    (before after : Selector) :
    (values (before ++ c :: after)).Perm (values (before ++ d :: after)) := by
  simp only [values, List.flatMap_append, List.flatMap_cons]
  exact (h.append_right _).append_left _

/-- Another order of clauses is another order of their values. -/
theorem Permuted.perm_values {s t : Selector} (h : Permuted s t) : s.values.Perm t.values := by
  cases h with
  | clauses h => exact h.flatMap_right _
  | allElements before after h =>
    refine perm_values_replace ?_ before after
    rw [values_all, values_all]
    exact h.flatMap_right _
  | anyElements before after h =>
    refine perm_values_replace ?_ before after
    rw [values_any, values_any]
    exact h.flatMap_right _

/-- So it is with another order of clauses inside a group. -/
theorem Inside.perm_values {s t : Selector} (h : Inside Permuted s t) :
    s.values.Perm t.values := by
  -- the selectors beside the changed one keep their values
  have hgroup {s t : Selector} (left right : List Selector) (h : s.values.Perm t.values) :
      ((left ++ s :: right).flatMap values).Perm ((left ++ t :: right).flatMap values) := by
    simp only [List.flatMap_append, List.flatMap_cons]
    exact (h.append_right _).append_left _
  induction h with
  | here h => exact h.perm_values
  | all before after left right _ ih =>
    refine perm_values_replace ?_ before after
    rw [values_all, values_all]
    exact hgroup left right ih
  | any before after left right _ ih =>
    refine perm_values_replace ?_ before after
    rw [values_any, values_any]
    exact hgroup left right ih

/-- **Reordered selectors have the same values**, up to order. -/
theorem Reordered.perm_values {s t : Selector} (h : s.Reordered t) : s.values.Perm t.values := by
  induction h with
  | refl => rfl
  | tail _ hstep ih => exact ih.trans hstep.perm_values

/-! ## Their texts -/

/-- **Rearranged selectors have texts of the same value**: each text of either selector is read in
one way only, and its value is the same under every interpretation. If only the order changes, the
parameters are the same up to order. -/
theorem rearranged_texts (s t : Selector) :
    (s.Rearranged t →
        ∃ meaning, s.toPredicate.Means meaning ∧ t.toPredicate.Means meaning) ∧
      (s.Reordered t → s.toPredicate.bound.params.Perm t.toPredicate.bound.params) := by
  constructor
  · intro h
    refine ⟨fun i => s.truth i, s.means, ?_⟩
    have hmeans := t.means
    simp only [← h.truth_eq] at hmeans
    exact hmeans
  · intro h
    show s.toPredicate.params.Perm t.toPredicate.params
    rw [s.params_toPredicate, t.params_toPredicate]
    exact h.perm_values

/-- Two clauses change places inside of a group, then the group and the clause behind it; at last
both are wrapped into one group. -/
theorem rearranged_texts_wrapped :
    (∃ meaning,
        (toPredicate [.any [[.equals "a" (.bool true), .directive .null "b"]],
          .equals "c" (.bool false)]).Means meaning ∧
        (toPredicate [.all [[.equals "c" (.bool false)],
          [.any [[.directive .null "b", .equals "a" (.bool true)]]]]]).Means meaning) ∧
      List.Perm
        (toPredicate [.any [[.equals "a" (.bool true), .directive .null "b"]],
          .equals "c" (.bool false)]).bound.params
        (toPredicate [.equals "c" (.bool false),
          .any [[.directive .null "b", .equals "a" (.bool true)]]]).bound.params := by
  have hinside : Inside Permuted
      [.any [[.equals "a" (.bool true), .directive .null "b"]], .equals "c" (.bool false)]
      [.any [[.directive .null "b", .equals "a" (.bool true)]], .equals "c" (.bool false)] :=
    .any [] [.equals "c" (.bool false)] [] [] (.here (.clauses (.swap _ _ [])))
  have houter : Permuted
      [.any [[.directive .null "b", .equals "a" (.bool true)]], .equals "c" (.bool false)]
      [.equals "c" (.bool false), .any [[.directive .null "b", .equals "a" (.bool true)]]] :=
    .clauses (.swap _ _ [])
  have hwrap : Regrouped
      [.equals "c" (.bool false), .any [[.directive .null "b", .equals "a" (.bool true)]]]
      [.all [[.equals "c" (.bool false)],
        [.any [[.directive .null "b", .equals "a" (.bool true)]]]]] :=
    .wrap [] [] [[.equals "c" (.bool false)],
      [.any [[.directive .null "b", .equals "a" (.bool true)]]]]
  have hreordered := (Relation.ReflTransGen.single hinside).tail (.here houter)
  have hregrouped : Inside Regrouped
      [.any [[.equals "a" (.bool true), .directive .null "b"]], .equals "c" (.bool false)]
      [.any [[.directive .null "b", .equals "a" (.bool true)]], .equals "c" (.bool false)] :=
    .any [] [.equals "c" (.bool false)] [] [] (.here (.permuted (.clauses (.swap _ _ []))))
  have hrearranged := ((Relation.ReflTransGen.single hregrouped).tail
    (.here (.permuted houter))).tail (.here hwrap)
  exact ⟨(rearranged_texts _ _).1 hrearranged, (rearranged_texts _ _).2 hreordered⟩

end Selector

end DocSelect
