import DocSelect.Proofs.Rearrangement
import Mathlib.Data.Fintype.Option
/-!
# Narrower and wider selectors

There is no negation in a selector, so its truth rises and falls with that of its parts. One clause
more, or one element more in a group of which all hold, narrows the selector in which it is put, and
with it every selector around; one element more in a group of which one holds widens them.

* `TruthLE` : the order of truths, in which unknown lies between false and true;
* `Selector.Narrowed`, `Selector.Widened` : one change in one selector;
* `Selector.Inside.truth_le` : a change that lowers no truth lowers none **at any depth**;
* `Selector.truth_le_of_narrowed`, `Selector.truth_le_of_widened` : any number of such changes;
* `Selector.narrowing_and_widening` : **narrowing makes no text true that was not, widening makes
  none untrue that was true**.
-/

namespace DocSelect

/-! ## The order of truths -/

/-- The first truth is at most the second: unknown lies between false and true. -/
def TruthLE (t u : Option Bool) : Prop := kleeneAnd t u = t

instance (t u : Option Bool) : Decidable (TruthLE t u) := decEq (kleeneAnd t u) t

namespace TruthLE

variable {t t' u u' : Option Bool}

theorem refl (t : Option Bool) : TruthLE t t := by
  revert t
  decide

theorem trans (h : TruthLE t u) (h' : TruthLE u u') : TruthLE t u' := by
  unfold TruthLE at *
  rw [← h, kleeneAnd_assoc, h']

theorem eq_true (h : TruthLE t u) (ht : t = some true) : u = some true := by
  revert t u
  decide

theorem eq_false (h : TruthLE t u) (hu : u = some false) : t = some false := by
  revert t u
  decide

/-- One more that has to hold. -/
theorem kleeneAnd_le (t u : Option Bool) : TruthLE (kleeneAnd t u) u := by
  revert t u
  decide

/-- One more that may hold. -/
theorem le_kleeneOr (t u : Option Bool) : TruthLE u (kleeneOr t u) := by
  revert t u
  decide

theorem kleeneAnd (h : TruthLE t t') (h' : TruthLE u u') :
    TruthLE (kleeneAnd t u) (DocSelect.kleeneAnd t' u') := by
  revert t t' u u'
  decide

theorem kleeneOr (h : TruthLE t t') (h' : TruthLE u u') :
    TruthLE (kleeneOr t u) (DocSelect.kleeneOr t' u') := by
  revert t t' u u'
  decide

end TruthLE

theorem kleeneAny_append (ts us : List (Option Bool)) :
    kleeneAny (ts ++ us) = kleeneOr (kleeneAny ts) (kleeneAny us) := by
  induction ts with
  | nil =>
    show kleeneAny us = kleeneOr (some false) (kleeneAny us)
    rcases kleeneAny us with _ | _ | _ <;> rfl
  | cons t ts ih => rw [List.cons_append, kleeneAny_cons, kleeneAny_cons, ih, kleeneOr_assoc]

namespace Selector

/-! ## Changes -/

/-- One clause more, or one element more in a group of which all hold. -/
inductive Narrowed : Selector → Selector → Prop
  /-- A clause is added, at any place. -/
  | clause (before after : Selector) (c : Clause) :
    Narrowed (before ++ after) (before ++ c :: after)
  /-- An element is added to a group, at any place. -/
  | element (before after : Selector) (left right : List Selector) (s : Selector) :
    Narrowed (before ++ .all (left ++ right) :: after)
      (before ++ .all (left ++ s :: right) :: after)

/-- One element more in a group of which one holds. -/
inductive Widened : Selector → Selector → Prop
  /-- An element is added to a group, at any place. -/
  | element (before after : Selector) (left right : List Selector) (s : Selector) :
    Widened (before ++ .any (left ++ right) :: after)
      (before ++ .any (left ++ s :: right) :: after)

/-- A change undone is the opposite change, at the same place. -/
theorem Inside.flip {change : Selector → Selector → Prop} {s t : Selector}
    (h : Inside change s t) : Inside (fun s t => change t s) t s := by
  induction h with
  | here h => exact .here h
  | all before after left right _ ih => exact .all before after left right ih
  | any before after left right _ ih => exact .any before after left right ih

section

variable {i : Interpretation}

/-! ## What a change does to the truth -/

/-- The truth of a selector follows that of one of its clauses. -/
theorem truth_le_replace {c d : Clause} (h : TruthLE (c.truth i) (d.truth i))
    (before after : Selector) :
    TruthLE (truth i (before ++ c :: after)) (truth i (before ++ d :: after)) := by
  rw [truth_append, truth_append, truth_cons, truth_cons]
  exact (TruthLE.refl _).kleeneAnd (h.kleeneAnd (.refl _))

/-- **A change that lowers no truth lowers none at any depth.** -/
theorem Inside.truth_le {change : Selector → Selector → Prop}
    (hchange : ∀ s t, change s t → TruthLE (s.truth i) (t.truth i)) {s t : Selector}
    (h : Inside change s t) : TruthLE (s.truth i) (t.truth i) := by
  induction h with
  | here h => exact hchange _ _ h
  | all before after left right _ ih =>
    refine truth_le_replace ?_ before after
    rw [truth_all, truth_all, List.map_append, List.map_append, kleeneAll_append, kleeneAll_append,
      List.map_cons, List.map_cons, kleeneAll_cons, kleeneAll_cons]
    exact (TruthLE.refl _).kleeneAnd (ih.kleeneAnd (.refl _))
  | any before after left right _ ih =>
    refine truth_le_replace ?_ before after
    rw [truth_any, truth_any, List.map_append, List.map_append, kleeneAny_append, kleeneAny_append,
      List.map_cons, List.map_cons, kleeneAny_cons, kleeneAny_cons]
    exact (TruthLE.refl _).kleeneOr (ih.kleeneOr (.refl _))

/-- One more condition that is to hold besides the others lowers the truth of the selector. -/
theorem Narrowed.truth_le {s t : Selector} (h : Narrowed s t) :
    TruthLE (t.truth i) (s.truth i) := by
  cases h with
  | clause before after c =>
    rw [truth_append, truth_append, truth_cons]
    exact (TruthLE.refl _).kleeneAnd (.kleeneAnd_le _ _)
  | element before after left right s =>
    refine truth_le_replace ?_ before after
    rw [truth_all, truth_all, List.map_append, List.map_append, kleeneAll_append, kleeneAll_append,
      List.map_cons, kleeneAll_cons]
    exact (TruthLE.refl _).kleeneAnd (.kleeneAnd_le _ _)

/-- One more condition of which one is to hold raises it. -/
theorem Widened.truth_le {s t : Selector} (h : Widened s t) :
    TruthLE (s.truth i) (t.truth i) := by
  cases h with
  | element before after left right s =>
    refine truth_le_replace ?_ before after
    rw [truth_any, truth_any, List.map_append, List.map_append, kleeneAny_append, kleeneAny_append,
      List.map_cons, kleeneAny_cons]
    exact (TruthLE.refl _).kleeneOr (.le_kleeneOr _ _)

/-! ## Any number of changes -/

/-- **What is narrowed has at most the truth it had.** -/
theorem truth_le_of_narrowed {s t : Selector} (h : Relation.ReflTransGen (Inside Narrowed) s t) :
    TruthLE (t.truth i) (s.truth i) := by
  induction h with
  | refl => exact .refl _
  | tail _ hstep ih => exact (hstep.flip.truth_le fun _ _ => Narrowed.truth_le).trans ih

/-- **What is widened has at least the truth it had.** -/
theorem truth_le_of_widened {s t : Selector} (h : Relation.ReflTransGen (Inside Widened) s t) :
    TruthLE (s.truth i) (t.truth i) := by
  induction h with
  | refl => exact .refl _
  | tail _ hstep ih => exact ih.trans (hstep.truth_le fun _ _ => Widened.truth_le)

end

/-! ## The texts -/

/-- **Narrowing makes no text true that was not, widening makes none untrue that was true**: the
texts of both selectors have one meaning each. If clauses are added, at any depth, or elements of
groups of which all hold, the second meaning is true only where the first one is, and false wherever
the first one is; if elements of groups of which one holds are added, it is the other way round. -/
theorem narrowing_and_widening (s t : Selector) :
    ∃ meaning meaning', s.toPredicate.Means meaning ∧ t.toPredicate.Means meaning' ∧
      (Relation.ReflTransGen (Inside Narrowed) s t → ∀ i,
        (meaning' i = some true → meaning i = some true) ∧
          (meaning i = some false → meaning' i = some false)) ∧
      (Relation.ReflTransGen (Inside Widened) s t → ∀ i,
        (meaning i = some true → meaning' i = some true) ∧
          (meaning' i = some false → meaning i = some false)) := by
  refine ⟨fun i => s.truth i, fun i => t.truth i, s.means, t.means, ?_, ?_⟩
  · intro h i
    exact ⟨(truth_le_of_narrowed h).eq_true, (truth_le_of_narrowed h).eq_false⟩
  · intro h i
    exact ⟨(truth_le_of_widened h).eq_true, (truth_le_of_widened h).eq_false⟩

/-- A clause is added to the empty selector that is the only element of a group, and an element to
an empty group inside of another one. -/
theorem narrowing_and_widening_empty :
    (∃ meaning meaning',
      (toPredicate [.any [[]]]).Means meaning ∧
        (toPredicate [.any [[.directive .null "a"]]]).Means meaning' ∧
        ∀ i, (meaning' i = some true → meaning i = some true) ∧
          (meaning i = some false → meaning' i = some false)) ∧
    ∃ meaning meaning',
      (toPredicate [.all [[.any []]]]).Means meaning ∧
        (toPredicate [.all [[.any [[.equals "a" (.bool true)]]]]]).Means meaning' ∧
        ∀ i, (meaning i = some true → meaning' i = some true) ∧
          (meaning' i = some false → meaning i = some false) := by
  have hnarrow : Inside Narrowed [.any [[]]] [.any [[.directive .null "a"]]] :=
    .any [] [] [] [] (.here (.clause [] [] (.directive .null "a")))
  have hwiden : Inside Widened [.all [[.any []]]] [.all [[.any [[.equals "a" (.bool true)]]]]] :=
    .all [] [] [] [] (.here (.element [] [] [] [] [.equals "a" (.bool true)]))
  obtain ⟨m, m', hm, hm', hnarrowed, -⟩ := narrowing_and_widening _ _
  obtain ⟨n, n', hn, hn', -, hwidened⟩ := narrowing_and_widening _ _
  exact ⟨⟨m, m', hm, hm', hnarrowed (.single hnarrow)⟩, n, n', hn, hn', hwidened (.single hwiden)⟩

end Selector

end DocSelect
