import DocSelect.Selector.OfJson
import Mathlib.Data.List.Forall2
/-!
# What reading a selector gives

A document is read as a selector entry by entry. Reading succeeds if the keys of each object are
distinct and each entry is read as a clause, and the clauses that it gives have the keys of the
entries.

* `Selector.clauses_eq_ok_iff`, `Selector.elements_eq_ok_iff` : reading lists, member by member;
* `Selector.clause_eq_ok` : how an entry can be read;
* `Selector.Everywhere` : what holds of the selector objects at every depth;
* `Selector.distinct_of_ofJson`, `Selector.unreserved_of_ofJson` : **a selector that was read
  repeats no key, and no path of it is a key with a meaning of its own**.
-/

namespace DocSelect

/-! ## Keys with a meaning of their own -/

/-- The keys that name no field: those of groups and directives. -/
def reservedKeys : List String := [allKey, anyKey, existsKey, "$null", "$notnull"]

theorem Directive.key_mem_reservedKeys (d : Directive) : d.key ∈ reservedKeys := by
  cases d <;> decide

theorem Directive.ofKey?_eq_some {key : String} {d : Directive} (h : ofKey? key = some d) :
    d.key = key := by
  simpa using List.find?_some h

theorem mem_reservedKeys_iff {key : String} :
    key ∈ reservedKeys ↔ key = allKey ∨ key = anyKey ∨ Directive.ofKey? key ≠ none := by
  constructor
  · intro h
    simp only [reservedKeys, List.mem_cons, List.not_mem_nil, or_false] at h
    rcases h with rfl | rfl | rfl | rfl | rfl
    · exact .inl rfl
    · exact .inr (.inl rfl)
    · exact .inr (.inr (by decide))
    · exact .inr (.inr (by decide))
    · exact .inr (.inr (by decide))
  · rintro (rfl | rfl | h)
    · decide
    · decide
    · obtain ⟨d, hd⟩ := Option.ne_none_iff_exists'.1 h
      rw [← Directive.ofKey?_eq_some hd]
      exact d.key_mem_reservedKeys

section

variable {α β : Type} {R : α → β → Prop}

theorem exists_of_mem_forall₂ {l : List α} {m : List β} (h : List.Forall₂ R l m) {b : β}
    (hb : b ∈ m) : ∃ a ∈ l, R a b := by
  induction h with
  | nil => cases hb
  | cons hab _ ih =>
    rcases List.mem_cons.1 hb with rfl | hb
    · exact ⟨_, List.mem_cons_self, hab⟩
    · obtain ⟨a, ha, hab⟩ := ih hb
      exact ⟨a, List.mem_cons_of_mem _ ha, hab⟩

/-- If each member of a list has a partner, so has the list. -/
theorem exists_forall₂ {l : List α} (h : ∀ a ∈ l, ∃ b, R a b) : ∃ m, List.Forall₂ R l m := by
  induction l with
  | nil => exact ⟨[], .nil⟩
  | cons a l ih =>
    rw [List.forall_mem_cons] at h
    obtain ⟨b, hb⟩ := h.1
    obtain ⟨m, hm⟩ := ih h.2
    exact ⟨b :: m, .cons hb hm⟩

end

/-! ## One step after another -/

theorem bind_eq_ok {ε α β : Type} {x : Except ε α} {f : α → Except ε β} {b : β} :
    x >>= f = .ok b ↔ ∃ a, x = .ok a ∧ f a = .ok b := by
  cases x <;> simp [bind, Except.bind]

theorem bind_eq_error {ε α β : Type} {x : Except ε α} {f : α → Except ε β} {e : ε} :
    x >>= f = .error e ↔ x = .error e ∨ ∃ a, x = .ok a ∧ f a = .error e := by
  cases x <;> simp [bind, Except.bind]

namespace Selector

/-! ## Lists of entries and of elements -/

/-- An object is read if its keys are distinct and each entry is read. -/
theorem clauses_eq_ok_iff {seen : List String} {entries : List (String × Json)}
    {cs : List Clause} :
    clauses seen entries = .ok cs ↔
      (entries.map Prod.fst).Nodup ∧ (∀ k ∈ entries.map Prod.fst, k ∉ seen) ∧
        List.Forall₂ (fun e c => clause e.1 e.2 = .ok c) entries cs := by
  induction entries generalizing seen cs with
  | nil => simp [clauses, eq_comm]
  | cons e rest ih =>
    obtain ⟨key, d⟩ := e
    rw [clauses]
    by_cases hseen : key ∈ seen
    · simp [hseen]
    · rw [if_neg hseen]
      rw [List.map_cons, List.nodup_cons, List.forall_mem_cons, List.forall₂_cons_left_iff]
      -- the rest is read with one key more to avoid, which is that the key is not among its keys
      simp only [bind_eq_ok, ih, Except.ok.injEq, List.mem_cons, not_or]
      constructor
      · rintro ⟨c, hc, cs', ⟨hnodup, hfresh, hrest⟩, rfl⟩
        refine ⟨⟨fun hmem => (hfresh key hmem).1 rfl, hnodup⟩, ⟨hseen, fun k hk => (hfresh k hk).2⟩,
          c, cs', hc, hrest, rfl⟩
      · rintro ⟨⟨hkey, hnodup⟩, ⟨-, hfresh⟩, c, cs', hc, hrest, rfl⟩
        refine ⟨c, hc, cs', ⟨hnodup, fun k hk => ⟨?_, hfresh k hk⟩, hrest⟩, rfl⟩
        rintro rfl
        exact hkey hk

/-- A group is read if each of its elements is read. -/
theorem elements_eq_ok_iff {items : List Json} {ss : List (List Clause)} :
    elements items = .ok ss ↔ List.Forall₂ (fun d s => element d = .ok s) items ss := by
  induction items generalizing ss with
  | nil => simp [elements, eq_comm]
  | cons d rest ih =>
    simp only [elements, bind_eq_ok, ih, Except.ok.injEq, List.forall₂_cons_left_iff]
    constructor
    · rintro ⟨s, hs, ss', hrest, rfl⟩
      exact ⟨s, ss', hs, hrest, rfl⟩
    · rintro ⟨s, ss', hs, hrest, rfl⟩
      exact ⟨s, hs, ss', hrest, rfl⟩

theorem element_eq_ok {d : Json} {s : List Clause} (h : element d = .ok s) :
    ∃ entries, d = .object entries ∧ clauses [] entries = .ok s := by
  cases d with
  | object entries => exact ⟨entries, rfl, h⟩
  | _ => cases h

theorem ofJson_eq_element {d : Json} {s : Selector} :
    ofJson d = .ok s ↔ element d = .ok s := by
  cases d <;> simp [ofJson, element]

/-! ## One entry -/

/-- How an entry can be read: as a group of its elements, or as a clause that is no group. -/
theorem clause_eq_ok {key : String} {d : Json} {c : Clause} (h : clause key d = .ok c) :
    (∃ items ss, d = .array items ∧ elements items = .ok ss ∧
      (key = allKey ∧ c = .all ss ∨ key = anyKey ∧ c = .any ss)) ∨
    (key ≠ allKey ∧ key ≠ anyKey ∧ leafClause key d = .ok c) := by
  unfold clause at h
  split at h
  · next items =>
    split at h
    · next hkey =>
      obtain ⟨ss, hss, hc⟩ := bind_eq_ok.1 h
      exact .inl ⟨items, ss, rfl, hss, .inl ⟨hkey, (Except.ok.inj hc).symm⟩⟩
    · next hall =>
      split at h
      · next hkey =>
        obtain ⟨ss, hss, hc⟩ := bind_eq_ok.1 h
        exact .inl ⟨items, ss, rfl, hss, .inr ⟨hkey, (Except.ok.inj hc).symm⟩⟩
      · next hany => exact .inr ⟨hall, hany, h⟩
  · split at h
    · cases h
    · next hkey =>
      rw [not_or] at hkey
      exact .inr ⟨hkey.1, hkey.2, h⟩

/-- How an entry that is no group can be read: as a directive, as an equality, or as a test. -/
theorem leafClause_eq_ok {key : String} {d : Json} {c : Clause} (h : leafClause key d = .ok c) :
    (∃ directive path, key = directive.key ∧ d = .string path ∧ c = .directive directive path) ∨
    (Directive.ofKey? key = none ∧ ∃ v, Scalar.ofJson? d = some v ∧ c = .equals key v) ∨
    (Directive.ofKey? key = none ∧ ∃ entries, d = .object entries ∧
      fieldTest key d entries = .ok c) := by
  unfold leafClause at h
  split at h
  · next directive hkey =>
    cases d with
    | string path =>
      exact .inl ⟨directive, path, (Directive.ofKey?_eq_some hkey).symm, rfl,
        (Except.ok.inj h).symm⟩
    | _ => cases h
  · next hkey =>
    unfold fieldClause at h
    split at h
    · next v hv => exact .inr (.inl ⟨hkey, v, hv, (Except.ok.inj h).symm⟩)
    · split at h
      · exact .inr (.inr ⟨hkey, _, rfl, h⟩)
      · cases h

/-- A test is read as a condition on the field. -/
theorem fieldTest_eq_ok {path : String} {whole : Json} {entries : List (String × Json)}
    {c : Clause} (h : fieldTest path whole entries = .ok c) : ∃ test, c = .field path test := by
  unfold fieldTest at h
  repeat' split at h
  all_goals first | exact ⟨_, (Except.ok.inj h).symm⟩ | cases h

/-- An entry is read as a clause with its key. -/
theorem key_of_clause {key : String} {d : Json} {c : Clause} (h : clause key d = .ok c) :
    c.key = key := by
  rcases clause_eq_ok h with ⟨_, _, -, -, ⟨rfl, rfl⟩ | ⟨rfl, rfl⟩⟩ | ⟨-, -, hleaf⟩
  · rfl
  · rfl
  · rcases leafClause_eq_ok hleaf with ⟨_, _, rfl, -, rfl⟩ | ⟨-, _, -, rfl⟩ | ⟨-, _, -, htest⟩
    · rfl
    · rfl
    · obtain ⟨test, rfl⟩ := fieldTest_eq_ok htest
      rfl

/-- A group is read from the array of its elements. -/
theorem elements_of_clause {key : String} {d : Json} {c : Clause} {ss : List (List Clause)}
    (h : clause key d = .ok c) (hc : c = .all ss ∨ c = .any ss) :
    ∃ items, elements items = .ok ss := by
  rcases clause_eq_ok h with ⟨items, ss', -, hss, ⟨-, rfl⟩ | ⟨-, rfl⟩⟩ | ⟨-, -, hleaf⟩
  · obtain rfl : ss' = ss := by simpa using hc
    exact ⟨items, hss⟩
  · obtain rfl : ss' = ss := by simpa using hc
    exact ⟨items, hss⟩
  · rcases leafClause_eq_ok hleaf with ⟨_, _, -, -, rfl⟩ | ⟨-, _, -, rfl⟩ | ⟨-, _, -, htest⟩
    · simp at hc
    · simp at hc
    · obtain ⟨test, rfl⟩ := fieldTest_eq_ok htest
      simp at hc

/-- The clauses of an object have the keys of its entries. -/
theorem map_key_of_clauses {entries : List (String × Json)} {cs : List Clause}
    (h : clauses [] entries = .ok cs) : cs.map Clause.key = entries.map Prod.fst := by
  have hkeys : List.Forall₂ (· = ·) (cs.map Clause.key) (entries.map Prod.fst) := by
    rw [List.forall₂_map_left_iff, List.forall₂_map_right_iff]
    exact ((clauses_eq_ok_iff.1 h).2.2.imp fun e c hc => key_of_clause hc).flip
  rwa [List.forall₂_eq_eq_eq] at hkeys

end Selector

/-! ## Selector objects at every depth -/

/-- Each selector object inside the clause, at every depth, has the property. -/
def Clause.Inside (P : List Clause → Prop) : Clause → Prop
  | .all selectors => ∀ s ∈ selectors, P s ∧ ∀ c ∈ s, c.Inside P
  | .any selectors => ∀ s ∈ selectors, P s ∧ ∀ c ∈ s, c.Inside P
  | _ => True
decreasing_by
  all_goals
    have hlt := sizeOf_lt_of_mem ‹_ ∈ _› ‹_ ∈ selectors›
    simp
    omega

/-- Each selector object of the selector, itself and at every depth, has the property. -/
def Selector.Everywhere (P : List Clause → Prop) (s : Selector) : Prop :=
  P s ∧ ∀ c ∈ s, c.Inside P

/-- The clause is no condition on a field whose path is a key with a meaning of its own. -/
def Clause.IsUnreserved : Clause → Prop
  | .equals path _ => path ∉ reservedKeys
  | .field path _ => path ∉ reservedKeys
  | _ => True

/-- What was read under a key is no condition on a field whose path is a key with a meaning. -/
theorem Selector.isUnreserved_of_clause {key : String} {d : Json} {c : Clause}
    (h : clause key d = .ok c) : c.IsUnreserved := by
  rcases clause_eq_ok h with ⟨_, _, -, -, ⟨-, rfl⟩ | ⟨-, rfl⟩⟩ | ⟨hall, hany, hleaf⟩
  · trivial
  · trivial
  · have hkey (hnone : Directive.ofKey? key = none) : key ∉ reservedKeys := by
      rw [mem_reservedKeys_iff]
      simp [hall, hany, hnone]
    rcases leafClause_eq_ok hleaf with ⟨_, _, -, -, rfl⟩ | ⟨hnone, _, -, rfl⟩ | ⟨hnone, _, -, htest⟩
    · trivial
    · exact hkey hnone
    · obtain ⟨test, rfl⟩ := fieldTest_eq_ok htest
      exact hkey hnone

/-- No condition on a field, at any depth, has a key with a meaning of its own as its path. -/
def Selector.Unreserved : Selector → Prop := Everywhere fun s => ∀ c ∈ s, c.IsUnreserved

/-- No two clauses of one selector object, at any depth, have the same key. -/
def Selector.Distinct : Selector → Prop := Everywhere fun s => (s.map Clause.key).Nodup

namespace Selector

/-- What holds of the clauses of each object that is read holds at every depth. -/
theorem everywhere_of_ofJson {P : List Clause → Prop}
    (hP : ∀ entries s, clauses [] entries = .ok s → P s) {d : Json} {s : Selector}
    (h : ofJson d = .ok s) : s.Everywhere P := by
  have helement {d : Json} {s : List Clause} (h : element d = .ok s)
      (ih : ∀ c ∈ s, ∀ key d, clause key d = .ok c → c.Inside P) :
      P s ∧ ∀ c ∈ s, c.Inside P := by
    obtain ⟨entries, rfl, hs⟩ := element_eq_ok h
    refine ⟨hP entries s hs, fun c hc => ?_⟩
    obtain ⟨e, -, he⟩ := exists_of_mem_forall₂ (clauses_eq_ok_iff.1 hs).2.2 hc
    exact ih c hc e.1 e.2 he
  have hgroup {items : List Json} {ss : List (List Clause)} (h : elements items = .ok ss)
      (ih : ∀ s ∈ ss, ∀ c ∈ s, ∀ key d, clause key d = .ok c → c.Inside P) :
      ∀ s ∈ ss, P s ∧ ∀ c ∈ s, c.Inside P := by
    intro s hs
    obtain ⟨d, -, hd⟩ := exists_of_mem_forall₂ (elements_eq_ok_iff.1 h) hs
    exact helement hd (ih s hs)
  -- by induction on the clause that was read: a group was read from the array of its elements
  have hinside (c : Clause) : ∀ key d, clause key d = .ok c → c.Inside P := by
    induction c with
    | equals path v => exact fun _ _ _ => by simp [Clause.Inside]
    | field path test => exact fun _ _ _ => by simp [Clause.Inside]
    | directive d path => exact fun _ _ _ => by simp [Clause.Inside]
    | all selectors ih =>
      intro key d hc
      obtain ⟨items, hitems⟩ := elements_of_clause hc (.inl rfl)
      rw [Clause.Inside]
      exact hgroup hitems ih
    | any selectors ih =>
      intro key d hc
      obtain ⟨items, hitems⟩ := elements_of_clause hc (.inr rfl)
      rw [Clause.Inside]
      exact hgroup hitems ih
  exact helement (ofJson_eq_element.1 h) fun c _ => hinside c

/-- **A selector that was read repeats no key**, at any depth. -/
theorem distinct_of_ofJson {d : Json} {s : Selector} (h : ofJson d = .ok s) : s.Distinct := by
  refine everywhere_of_ofJson (fun entries s hs => ?_) h
  rw [map_key_of_clauses hs]
  exact (clauses_eq_ok_iff.1 hs).1

/-- **No path of a selector that was read is a key with a meaning of its own**, at any depth. -/
theorem unreserved_of_ofJson {d : Json} {s : Selector} (h : ofJson d = .ok s) : s.Unreserved := by
  refine everywhere_of_ofJson (fun entries s hs c hc => ?_) h
  obtain ⟨e, -, he⟩ := exists_of_mem_forall₂ (clauses_eq_ok_iff.1 hs).2.2 hc
  exact isUnreserved_of_clause he

end Selector

end DocSelect
