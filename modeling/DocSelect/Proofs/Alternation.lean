import DocSelect.Proofs.Formula
import Mathlib.Data.List.Forall2
/-!
# Text and values in turn

A predicate that is built from conditions and groups has text and values in turn, with text at both
ends: pieces of text that meet are always joined to one piece. No piece of text is empty or has a
placeholder in it, so the text with placeholders shows where each piece ends. Hence a predicate is
determined by what is rendered from it, and it does not matter how a conjunction was put together.

* `Predicate.Alternating` : text and values in turn;
* `Predicate.Alternating.join` : joining such pieces gives such pieces;
* `Formula.alternating` : **the pieces of a predicate are text and values in turn**;
* `Predicate.Alternating.alike` : such pieces are told from the text with placeholders and the
  parameters;
* `Predicate.joined_joined` : what is joined by a word can be joined to more by it;
* `Formula.normal_form` : **equal renderings come from equal predicates**, and a conjunction of
  conjunctions is one conjunction.
-/

namespace DocSelect

namespace Predicate

/-! ## Joining pieces -/

section

variable {p q r : List Fragment}

/-- Only the last piece can meet what follows. -/
theorem join_cons (f : Fragment) (hp : p ≠ []) (q : List Fragment) :
    join (f :: p) q = f :: join p q := by
  obtain ⟨g, p, rfl⟩ := List.exists_cons_of_ne_nil hp
  cases f <;> rfl

theorem join_ne_nil (hp : p ≠ []) (q : List Fragment) : join p q ≠ [] := by
  fun_induction join p q with
  | case1 => exact absurd rfl hp
  | case2 | case3 => exact List.cons_ne_nil _ _

/-- Joining pieces to joined pieces is joining them all. -/
theorem join_assoc (p q r : List Fragment) : join (join p q) r = join p (join q r) := by
  induction p with
  | nil => rfl
  | cons f p ih =>
    by_cases hp : p = []
    · -- the piece may meet the first one of `q`, and if that is all of `q`, the first one of `r`
      subst hp
      match f, q, r with
      | .sql a, .sql b :: [], .sql c :: r => simp [join, String.append_assoc]
      | .sql _, .sql _ :: [], .value _ :: _ | .sql _, .sql _ :: [], []
      | .sql _, .sql _ :: _ :: _, _ | .sql _, .value _ :: _, _ | .sql _, [], _
      | .value _, _, _ => rfl
    · rw [join_cons f hp, join_cons f (join_ne_nil hp q), join_cons f hp, ih]

end

theorem append_assoc (p q r : Predicate) : p ++ q ++ r = p ++ (q ++ r) :=
  congrArg Predicate.mk (join_assoc p.fragments q.fragments r.fragments)

/-! ## Text and values in turn -/

/-- A piece of text that stands between values: there is some, and it has no placeholder. -/
def IsText (t : String) : Prop := t ≠ "" ∧ '?' ∉ t.toList

/-- Text and values in turn, with text at both ends. -/
inductive Alternating : List Fragment → Prop
  /-- One piece of text. -/
  | text {t : String} (ht : IsText t) : Alternating [.sql t]
  /-- Text and a value before others. -/
  | value {t : String} (ht : IsText t) (v : Scalar) {rest : List Fragment}
    (h : Alternating rest) : Alternating (.sql t :: .value v :: rest)

instance (t : String) : Decidable (IsText t) := by
  unfold IsText
  infer_instance

theorem IsText.append {s t : String} (hs : IsText s) (ht : IsText t) : IsText (s ++ t) := by
  refine ⟨fun h => hs.1 ?_, ?_⟩
  · exact (String.append_eq_empty_iff.1 h).1
  · rw [String.toList_append, List.mem_append, not_or]
    exact ⟨hs.2, ht.2⟩

namespace Alternating

variable {p q : List Fragment}

/-- The last text of the one and the first text of the other become one piece. -/
theorem join (hp : Alternating p) (hq : Alternating q) : Alternating (join p q) := by
  induction hp with
  | text hs =>
    cases hq with
    | text ht => exact .text (hs.append ht)
    | value ht v h => exact .value (hs.append ht) v h
  | value hs v h ih =>
    rw [join_cons _ (List.cons_ne_nil _ _), join_cons]
    · exact .value hs v ih
    · rintro rfl
      cases h

end Alternating

/-! ## The pieces of what is built -/

theorem alternating_joined {word empty : String} (hword : IsText (" " ++ word ++ " "))
    (hempty : IsText empty) {parts : List Formula}
    (h : ∀ p ∈ parts, Alternating p.toPredicate.fragments) :
    Alternating (joined word empty (parts.map Formula.toPredicate)).fragments := by
  refine Formula.parts_induction ?_ (fun p hp => hp) (fun p q rest hp ih => ?_) parts h
  · exact .text hempty
  · exact hp.join ((Alternating.text hword).join ih)

theorem alternating_grouped {p : Predicate} (h : Alternating p.fragments) :
    Alternating (grouped p).fragments := by
  have hopen : IsText "( " := by decide
  have hclose : IsText " )" := by decide
  exact (Alternating.text hopen).join (h.join (.text hclose))

end Predicate

theorem FieldCondition.alternating (c : FieldCondition) :
    Predicate.Alternating c.toPredicate.fragments := by
  cases c with
  | compare path op operand =>
    have hop : Predicate.IsText (")" ++ (" " ++ op.operator ++ " ")) := by cases op <;> decide
    exact .value (by decide) _ (.value hop operand (.text (by decide)))
  | present path expected =>
    refine .value (by decide) _ (.text ?_)
    cases expected <;> decide
  | isNull path expected =>
    refine .value (by decide) _ (.text ?_)
    cases expected <;> decide

/-- **The pieces of a predicate are text and values in turn.** -/
theorem Formula.alternating (p : Formula) : Predicate.Alternating p.toPredicate.fragments := by
  induction p with
  | field c =>
    rw [toPredicate]
    exact c.alternating
  | all parts ih =>
    rw [toPredicate]
    exact Predicate.alternating_grouped (Predicate.alternating_joined (by decide) (by decide) ih)
  | any parts ih =>
    rw [toPredicate]
    exact Predicate.alternating_grouped (Predicate.alternating_joined (by decide) (by decide) ih)
  | conjunction parts ih =>
    rw [toPredicate]
    exact Predicate.alternating_joined (by decide) (by decide) ih

/-! ## Pieces and renderings -/

/-- The pieces are the same: equal texts, and values that count as the same. -/
inductive Fragment.Alike (same : Scalar → Scalar → Prop) : Fragment → Fragment → Prop
  /-- The same text. -/
  | sql (t : String) : Alike same (.sql t) (.sql t)
  /-- Two values that count as the same. -/
  | value {v w : Scalar} (h : same v w) : Alike same (.value v) (.value w)

/-- The predicates have the same pieces. -/
def Predicate.Alike (same : Scalar → Scalar → Prop) (p q : Predicate) : Prop :=
  List.Forall₂ (Fragment.Alike same) p.fragments q.fragments

/-- The texts with placeholders are equal, and the parameters are the same one by one. -/
def BoundPredicate.Alike (same : Scalar → Scalar → Prop) (b c : BoundPredicate) : Prop :=
  b.sql = c.sql ∧ List.Forall₂ same b.params c.params

/-- If only equal values are the same, only equal predicates are. -/
theorem Predicate.alike_eq_iff (p q : Predicate) : p.Alike Eq q ↔ p = q := by
  have hpieces : Fragment.Alike Eq = Eq := by
    funext f g
    rw [eq_iff_iff]
    constructor
    · rintro (_ | rfl) <;> rfl
    · rintro rfl
      cases f with
      | sql t => exact .sql t
      | value v => exact .value rfl
  rw [Alike, hpieces, List.forall₂_eq_eq_eq]
  exact ⟨congrArg Predicate.mk, congrArg fragments⟩

theorem BoundPredicate.alike_eq_iff (b c : BoundPredicate) : b.Alike Eq c ↔ b = c := by
  rw [Alike, List.forall₂_eq_eq_eq, BoundPredicate.mk.injEq]

namespace Predicate

/-- The first placeholder ends the text before it. -/
theorem append_placeholder_inj {a b s t : List Char} (ha : '?' ∉ a) (hb : '?' ∉ b)
    (h : a ++ '?' :: s = b ++ '?' :: t) : a = b ∧ s = t := by
  have hbefore {a s : List Char} (ha : '?' ∉ a) :
      (a ++ '?' :: s).takeWhile (fun c => c != '?') = a := by
    rw [List.takeWhile_append_of_pos, List.takeWhile_cons_of_neg (by simp), List.append_nil]
    exact fun c hc => bne_iff_ne.2 fun heq => ha (heq ▸ hc)
  obtain rfl : a = b := by rw [← hbefore ha, h, hbefore hb]
  exact ⟨rfl, (List.cons.inj (List.append_cancel_left h)).2⟩

variable {same : Scalar → Scalar → Prop}

theorem boundChars_single (t : String) : boundChars ⟨[.sql t]⟩ = t.toList :=
  List.append_nil t.toList

theorem boundChars_text_value (t : String) (v : Scalar) (rest : List Fragment) :
    boundChars ⟨.sql t :: .value v :: rest⟩ = t.toList ++ '?' :: boundChars ⟨rest⟩ := rfl

/-- One piece of text has no placeholder in it, so it is not rendered as one with a value behind
it. -/
theorem IsText.boundChars_ne {s : String} (hs : IsText s) (t : String) (v : Scalar)
    (rest : List Fragment) : boundChars ⟨[.sql s]⟩ ≠ boundChars ⟨.sql t :: .value v :: rest⟩ := by
  intro h
  refine hs.2 ?_
  rw [← boundChars_single, h, boundChars_text_value]
  simp

/-- The same pieces are rendered alike. -/
theorem Alike.bound {p q : Predicate} (h : p.Alike same q) : p.bound.Alike same q.bound := by
  obtain ⟨p⟩ := p
  obtain ⟨q⟩ := q
  have hpieces : List.Forall₂ (Fragment.Alike same) p q := h
  suffices hparts : boundChars ⟨p⟩ = boundChars ⟨q⟩ ∧
      List.Forall₂ same (params ⟨p⟩) (params ⟨q⟩) from
    ⟨congrArg String.ofList hparts.1, hparts.2⟩
  induction hpieces with
  | nil => exact ⟨rfl, .nil⟩
  | cons hpiece hrest ih =>
    obtain ⟨hchars, hparams⟩ := ih hrest
    cases hpiece with
    | sql t => exact ⟨congrArg (t.toList ++ ·) hchars, hparams⟩
    | value hsame => exact ⟨congrArg ('?' :: ·) hchars, .cons hsame hparams⟩

/-- Text and values in turn are told from the text with placeholders and the parameters: each
placeholder ends the piece of text before it. -/
theorem Alternating.alike {p q : List Fragment} (hp : Alternating p) (hq : Alternating q)
    (hchars : boundChars ⟨p⟩ = boundChars ⟨q⟩)
    (hparams : List.Forall₂ same (params ⟨p⟩) (params ⟨q⟩)) : Alike same ⟨p⟩ ⟨q⟩ := by
  induction hp generalizing q with
  | @text s hs =>
    cases hq with
    | @text t ht =>
      rw [boundChars_single, boundChars_single, String.toList_inj] at hchars
      rw [hchars]
      exact .cons (.sql t) .nil
    | value ht v h => exact absurd hchars (hs.boundChars_ne _ v _)
  | @value s hs v p hp ih =>
    cases hq with
    | text ht => exact absurd hchars.symm (ht.boundChars_ne _ v _)
    | @value t ht w q hq =>
      rw [boundChars_text_value, boundChars_text_value] at hchars
      obtain ⟨htext, hrest⟩ := append_placeholder_inj hs.2 ht.2 hchars
      obtain ⟨hsame, hparams⟩ := List.forall₂_cons.1 hparams
      rw [String.toList_inj.1 htext]
      exact .cons (.sql t) (.cons (.value hsame) (ih hq hrest hparams))

end Predicate

/-- **Predicates are the same if and only if their renderings are.** -/
theorem Formula.alike_iff (same : Scalar → Scalar → Prop) (p q : Formula) :
    p.toPredicate.Alike same q.toPredicate ↔
      p.toPredicate.bound.Alike same q.toPredicate.bound := by
  refine ⟨Predicate.Alike.bound, fun h => p.alternating.alike q.alternating ?_ h.2⟩
  exact String.ofList_injective h.1

/-! ## Conjunctions of conjunctions -/

namespace Predicate

variable (word empty : String)

theorem joined_cons (p : Predicate) {ps : List Predicate} (hp : ps ≠ []) :
    joined word empty (p :: ps) = p ++ (text (" " ++ word ++ " ") ++ joined word empty ps) := by
  obtain ⟨q, ps, rfl⟩ := List.exists_cons_of_ne_nil hp
  rfl

/-- Predicates joined by a word, joined by it to others, are all of them joined. -/
theorem joined_joined {ps qs : List Predicate} (hp : ps ≠ []) (hq : qs ≠ []) :
    joined word empty [joined word empty ps, joined word empty qs] =
      joined word empty (ps ++ qs) := by
  obtain ⟨p, ps, rfl⟩ := List.exists_cons_of_ne_nil hp
  induction ps generalizing p with
  | nil => exact (joined_cons word empty p hq).symm
  | cons p' ps ih =>
    have hrest : p' :: ps ≠ [] := List.cons_ne_nil p' ps
    have hall : p' :: ps ++ qs ≠ [] := List.cons_ne_nil p' (ps ++ qs)
    rw [List.cons_append, joined_cons word empty p hall, ← ih p' hrest,
      joined_cons word empty p hrest]
    simp only [joined, append_assoc]

end Predicate

/-- **Equal renderings come from equal predicates.** The pieces of a predicate that is built from
conditions and groups are text and values in turn, with text at both ends; no text is empty or has a
placeholder in it. So predicates are the same just if their texts with placeholders are equal and
their parameters the same, whatever counts as the same value; in particular they are equal just if
these are. And a conjunction of two conjunctions, none of them empty, is that of all their parts. -/
theorem Formula.normal_form :
    (∀ p : Formula, Predicate.Alternating p.toPredicate.fragments) ∧
      (∀ (same : Scalar → Scalar → Prop) (p q : Formula),
        p.toPredicate.Alike same q.toPredicate ↔
          p.toPredicate.bound.Alike same q.toPredicate.bound) ∧
      (∀ p q : Formula, p.toPredicate = q.toPredicate ↔
        p.toPredicate.bound = q.toPredicate.bound) ∧
      ∀ ps qs : List Formula, ps ≠ [] → qs ≠ [] →
        (conjunction [conjunction ps, conjunction qs]).toPredicate =
          (conjunction (ps ++ qs)).toPredicate := by
  refine ⟨Formula.alternating, Formula.alike_iff, fun p q => ?_, fun ps qs hp hq => ?_⟩
  · rw [← Predicate.alike_eq_iff, Formula.alike_iff, BoundPredicate.alike_eq_iff]
  · have hmap {parts : List Formula} (h : parts ≠ []) : parts.map toPredicate ≠ [] := by
      simpa using h
    simp only [toPredicate, List.map_cons, List.map_nil, List.map_append, Predicate.conjunction]
    exact Predicate.joined_joined "AND" "TRUE" (hmap hp) (hmap hq)

/-- A condition whose path holds a placeholder, in front of groups of no parts. -/
theorem Formula.normal_form_groups :
    [field (.present "$.a?" true)] ≠ [] ∧ [any [], all []] ≠ [] ∧
      (conjunction [conjunction [field (.present "$.a?" true)],
          conjunction [any [], all []]]).toPredicate =
        (conjunction [field (.present "$.a?" true), any [], all []]).toPredicate := by
  have hp : [field (.present "$.a?" true)] ≠ [] := List.cons_ne_nil _ _
  have hq : [any [], all []] ≠ [] := List.cons_ne_nil _ _
  exact ⟨hp, hq, normal_form.2.2.2 _ _ hp hq⟩

end DocSelect
