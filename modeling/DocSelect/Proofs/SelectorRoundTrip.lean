import DocSelect.Proofs.Collapse
import DocSelect.Proofs.SelectorReading
import DocSelect.Selector.ToJson
/-!
# Writing a selector and reading it back

A selector is written as an object with each key once, so clauses with one key collapse. Reading
gives the collapsed selector, provided that no path has a meaning of its own as a key.

* `Selector.collapse` : every selector object with each key once, the last clause at the place of
  the first one;
* `Selector.element_toJson` : reading what was written gives the collapsed selector, if each clause
  does;
* `Selector.ofCollapsed_toJson` : **what reading back gives, when it gives the selector itself, and
  that it never gives a selector with another document**.
-/

namespace DocSelect

/-! ## Each key once -/

/-- The clause in which every selector object has each key once. -/
def Clause.collapse : Clause → Clause
  | .all selectors => .all (selectors.map fun s => Keyed.lasts key (s.map collapse))
  | .any selectors => .any (selectors.map fun s => Keyed.lasts key (s.map collapse))
  | .equals path v => .equals path v
  | .field path test => .field path test
  | .directive d path => .directive d path
decreasing_by
  all_goals
    have hlt := sizeOf_lt_of_mem ‹_ ∈ _› ‹_ ∈ selectors›
    simp
    omega

/-- The selector in which every selector object, at every depth, has for each key the last clause
with the key, at the place of the first one. -/
def Selector.collapse (s : Selector) : Selector := Keyed.lasts Clause.key (s.map Clause.collapse)

@[simp] theorem Clause.key_collapse (c : Clause) : c.collapse.key = c.key := by
  cases c <;> simp [collapse, key]

theorem Selector.collapse_eq (s : Selector) :
    s.collapse = (Keyed.lasts Clause.key s).map Clause.collapse := by
  rw [collapse, Keyed.lasts_map]
  congr 2
  exact funext Clause.key_collapse

/-- Where keys are distinct at every depth, nothing collapses. -/
theorem Clause.collapse_eq_self {c : Clause}
    (h : c.Inside fun s => (s.map Clause.key).Nodup) : c.collapse = c := by
  have hgroup {selectors : List (List Clause)}
      (ih : ∀ s ∈ selectors, ∀ c ∈ s, c.Inside (fun s => (s.map Clause.key).Nodup) → c.collapse = c)
      (h : ∀ s ∈ selectors, (s.map Clause.key).Nodup ∧
        ∀ c ∈ s, c.Inside fun s => (s.map Clause.key).Nodup) :
      (selectors.map fun s => Keyed.lasts key (s.map collapse)) = selectors := by
    refine (List.map_congr_left fun s hs => ?_).trans (List.map_id selectors)
    have hself : s.map collapse = s :=
      (List.map_congr_left fun c hc => ih s hs c hc ((h s hs).2 c hc)).trans (List.map_id s)
    rw [hself, Keyed.lasts_of_nodup (h s hs).1, id]
  induction c with
  | all selectors ih =>
    rw [Inside] at h
    rw [collapse, hgroup ih h]
  | any selectors ih =>
    rw [Inside] at h
    rw [collapse, hgroup ih h]
  | _ => rw [collapse]

theorem Selector.Distinct.collapse_eq_self {s : Selector} (h : s.Distinct) : s.collapse = s := by
  have hself : s.map Clause.collapse = s :=
    (List.map_congr_left fun c hc => Clause.collapse_eq_self (h.2 c hc)).trans (List.map_id s)
  rw [collapse, hself, Keyed.lasts_of_nodup h.1]

/-! ## The document of a selector -/

namespace Selector

/-- The document of a selector has an entry for the last clause of each key. -/
theorem toJson_eq (s : Selector) :
    s.toJson = .object ((Keyed.lasts Clause.key s).map fun c => (c.key, c.toJson)) := by
  rw [toJson, entriesToJson_eq_map, Keyed.collapse_map]

/-- The entries of the document have distinct keys. -/
theorem nodup_entries (s : Selector) :
    (((Keyed.lasts Clause.key s).map fun c => (c.key, c.toJson)).map Prod.fst).Nodup := by
  rw [List.map_map]
  exact Keyed.nodup_map_key_lasts Clause.key s

/-- The document of a selector repeats no key, if no value in it does. -/
theorem collapse_toJson_of_clauses {s : Selector} (h : ∀ c ∈ s, c.toJson.collapse = c.toJson) :
    s.toJson.collapse = s.toJson := by
  have hvalues : Json.collapseEntries
      ((Keyed.lasts Clause.key s).map fun c => (c.key, c.toJson)) =
        (Keyed.lasts Clause.key s).map fun c => (c.key, c.toJson) := by
    rw [Json.collapseEntries_eq_map, List.map_map]
    refine List.map_congr_left fun c hc => ?_
    rw [Function.comp_apply, h c (Keyed.mem_of_mem_lasts hc)]
  rw [toJson_eq, Json.collapse, hvalues, Keyed.collapse_of_nodup s.nodup_entries]

end Selector

/-- The value of a clause repeats no key. -/
theorem Clause.collapse_toJson (c : Clause) : c.toJson.collapse = c.toJson := by
  have hgroup {selectors : List (List Clause)}
      (ih : ∀ s ∈ selectors, ∀ c ∈ s, c.toJson.collapse = c.toJson) :
      Json.collapseItems (elementsToJson selectors) = elementsToJson selectors := by
    rw [Json.collapseItems_eq_map, Selector.elementsToJson_eq_map, List.map_map]
    exact List.map_congr_left fun s hs => Selector.collapse_toJson_of_clauses (ih s hs)
  have hscalar (v : Scalar) : v.toJson.collapse = v.toJson := by cases v <;> rfl
  induction c with
  | equals path v => exact hscalar v
  | field path test =>
    rw [toJson, Json.collapse, Json.collapseEntries, Json.collapseEntries, hscalar]
    rfl
  | all selectors ih => rw [toJson, Json.collapse, hgroup ih]
  | any selectors ih => rw [toJson, Json.collapse, hgroup ih]
  | directive d path => rfl

/-- The document of a selector repeats no key, at any depth. -/
theorem Selector.collapse_toJson (s : Selector) : s.toJson.collapse = s.toJson :=
  collapse_toJson_of_clauses fun c _ => c.collapse_toJson

/-! ## Reading what was written -/

namespace Selector

theorem ofKey?_eq_none {key : String} (h : key ∉ reservedKeys) : Directive.ofKey? key = none := by
  rw [mem_reservedKeys_iff, not_or, not_or] at h
  exact not_not.1 h.2.2

theorem clause_of_not_group {key : String} {d : Json} (hall : key ≠ allKey) (hany : key ≠ anyKey) :
    clause key d = leafClause key d := by
  cases d <;> simp [clause, hall, hany]

theorem clause_of_field {path : String} {d : Json} (h : path ∉ reservedKeys) :
    clause path d = fieldClause path d := by
  have hnone := ofKey?_eq_none h
  rw [mem_reservedKeys_iff, not_or, not_or] at h
  rw [clause_of_not_group h.1 h.2.1, leafClause, hnone]

/-- A test is read as it was written. -/
theorem fieldTest_toJson (path : String) (whole : Json) (test : FieldTest) :
    fieldTest path whole [(test.key, test.operand.toJson)] = .ok (.field path test) := by
  cases test with
  | compare op v =>
    have hne : op.key ≠ existsKey := by cases op <;> decide
    simp [fieldTest, FieldTest.key, FieldTest.operand, hne]
  | present b => simp [fieldTest, FieldTest.key, FieldTest.operand, Scalar.toJson, Scalar.ofJson?]

theorem clause_directive (d : Directive) (path : String) :
    clause d.key (.string path) = .ok (.directive d path) := by
  cases d <;> rfl

theorem clause_all {items : List Json} {ss : List Selector} (h : elements items = .ok ss) :
    clause allKey (.array items) = .ok (.all ss) := by
  rw [clause, if_pos rfl, h]
  rfl

theorem clause_any {items : List Json} {ss : List Selector} (h : elements items = .ok ss) :
    clause anyKey (.array items) = .ok (.any ss) := by
  rw [clause, if_neg (by decide), if_pos rfl, h]
  rfl

/-- Reading the document of a selector gives the collapsed selector, if each clause is read as the
collapsed clause. -/
theorem element_toJson {s : Selector} (h : ∀ c ∈ s, clause c.key c.toJson = .ok c.collapse) :
    element s.toJson = .ok s.collapse := by
  rw [toJson_eq, collapse_eq, element, clauses_eq_ok_iff]
  -- the keys of the document are distinct, so only the single entries are left to read
  refine ⟨s.nodup_entries, fun _ _ => List.not_mem_nil, ?_⟩
  rw [List.forall₂_map_left_iff, List.forall₂_map_right_iff, List.forall₂_same]
  exact fun c hc => h c (Keyed.mem_of_mem_lasts hc)

theorem elements_toJson {ss : List Selector}
    (h : ∀ s ∈ ss, ∀ c ∈ s, clause c.key c.toJson = .ok c.collapse) :
    elements (Clause.elementsToJson ss) = .ok (ss.map collapse) := by
  rw [elementsToJson_eq_map, elements_eq_ok_iff, List.forall₂_map_left_iff,
    List.forall₂_map_right_iff, List.forall₂_same]
  exact fun s hs => element_toJson (h s hs)

/-- Where no path has a meaning of its own, each clause is read as the collapsed clause. -/
theorem clause_toJson {c : Clause} (hc : c.IsUnreserved)
    (h : c.Inside fun s => ∀ c ∈ s, c.IsUnreserved) :
    clause c.key c.toJson = .ok c.collapse := by
  have hgroup {selectors : List Selector}
      (ih : ∀ s ∈ selectors, ∀ c ∈ s, c.IsUnreserved →
        (c.Inside fun s => ∀ c ∈ s, c.IsUnreserved) → clause c.key c.toJson = .ok c.collapse)
      (h : ∀ s ∈ selectors, (∀ c ∈ s, c.IsUnreserved) ∧
        ∀ c ∈ s, c.Inside fun s => ∀ c ∈ s, c.IsUnreserved) :
      elements (Clause.elementsToJson selectors) = .ok (selectors.map collapse) :=
    elements_toJson fun s hs c hc => ih s hs c hc ((h s hs).1 c hc) ((h s hs).2 c hc)
  induction c with
  | equals path v =>
    rw [Clause.key, Clause.toJson, clause_of_field hc, Clause.collapse]
    -- no scalar is written as an object, so no equality is taken for a test
    cases v <;> rfl
  | field path test =>
    rw [Clause.key, Clause.toJson, clause_of_field hc, Clause.collapse]
    exact fieldTest_toJson path _ test
  | all selectors ih =>
    rw [Clause.Inside] at h
    rw [Clause.collapse]
    exact clause_all (hgroup ih h)
  | any selectors ih =>
    rw [Clause.Inside] at h
    rw [Clause.collapse]
    exact clause_any (hgroup ih h)
  | directive d path =>
    rw [Clause.collapse]
    exact clause_directive d path

/-! ## Whatever is read back has the document -/

/-- What is read back of a selector has its document, if this holds of each clause. -/
theorem toJson_of_element {s t : Selector}
    (h : ∀ c ∈ s, ∀ c', clause c.key c.toJson = .ok c' → c'.toJson = c.toJson)
    (ht : element s.toJson = .ok t) : t.toJson = s.toJson := by
  rw [toJson_eq, element, clauses_eq_ok_iff] at ht
  -- the entries of what was read are those of the document
  have hentries : List.Forall₂ (· = ·)
      (t.map fun c => (c.key, c.toJson))
      ((Keyed.lasts Clause.key s).map fun c => (c.key, c.toJson)) := by
    have hread := ht.2.2
    rw [List.forall₂_map_left_iff] at hread
    have hmem : ∀ c ∈ Keyed.lasts Clause.key s, c ∈ s := fun c hc => Keyed.mem_of_mem_lasts hc
    rw [List.forall₂_map_left_iff, List.forall₂_map_right_iff]
    refine List.Forall₂.flip (((List.forall₂_and_left _ _).2 ⟨hmem, hread⟩).imp ?_)
    rintro c c' ⟨hc, hc'⟩
    exact Prod.ext (key_of_clause hc') (h c hc c' hc')
  rw [List.forall₂_eq_eq_eq] at hentries
  rw [toJson, entriesToJson_eq_map, hentries, Keyed.collapse_of_nodup s.nodup_entries, toJson_eq]

/-- What is read back of a group has its value, if this holds of each clause in it. -/
theorem elementsToJson_of_elements {ss ts : List Selector}
    (h : ∀ s ∈ ss, ∀ c ∈ s, ∀ c', clause c.key c.toJson = .ok c' → c'.toJson = c.toJson)
    (hts : elements (Clause.elementsToJson ss) = .ok ts) :
    Clause.elementsToJson ts = Clause.elementsToJson ss := by
  rw [elementsToJson_eq_map, elements_eq_ok_iff, List.forall₂_map_left_iff] at hts
  have hvalues : List.Forall₂ (· = ·) (ts.map toJson) (ss.map toJson) := by
    rw [List.forall₂_map_left_iff, List.forall₂_map_right_iff]
    refine List.Forall₂.flip (((List.forall₂_and_left _ _).2 ⟨h, hts⟩).imp ?_)
    rintro s t ⟨hs, ht⟩
    exact toJson_of_element hs ht
  rw [List.forall₂_eq_eq_eq] at hvalues
  rw [elementsToJson_eq_map, elementsToJson_eq_map, hvalues]

/-- What is read back of a clause has its value. -/
theorem toJson_of_clause (c : Clause) :
    ∀ c', clause c.key c.toJson = .ok c' → c'.toJson = c.toJson := by
  induction c with
  | equals path v =>
    intro c' h
    -- the path may be the key of a directive: then a string was read as the path of the directive
    rcases clause_eq_ok h with ⟨_, _, hd, -, -⟩ | ⟨-, -, hleaf⟩
    · cases v <;> cases hd
    rcases leafClause_eq_ok hleaf with ⟨_, _, -, hd, rfl⟩ | ⟨-, w, hd, rfl⟩ | ⟨-, _, hd, -⟩
    · exact hd.symm
    · exact Scalar.toJson_of_ofJson? hd
    · cases v <;> cases hd
  | field path test =>
    intro c' h
    rcases clause_eq_ok h with ⟨_, _, hd, -, -⟩ | ⟨-, -, hleaf⟩
    · cases hd
    rcases leafClause_eq_ok hleaf with ⟨_, _, -, hd, -⟩ | ⟨-, _, hd, -⟩ | ⟨-, _, hd, htest⟩
    · cases hd
    · cases hd
    · obtain rfl := Json.object.inj hd
      have hread := (fieldTest_toJson path _ test).symm.trans htest
      rw [← Except.ok.inj hread]
  | all selectors ih =>
    intro c' h
    rcases clause_eq_ok h with ⟨_, ss, hd, hss, hc⟩ | ⟨hne, -, -⟩
    · obtain rfl := Json.array.inj hd
      have hvalues := elementsToJson_of_elements ih hss
      rcases hc with ⟨-, rfl⟩ | ⟨-, rfl⟩ <;> exact congrArg Json.array hvalues
    · exact absurd rfl hne
  | any selectors ih =>
    intro c' h
    rcases clause_eq_ok h with ⟨_, ss, hd, hss, hc⟩ | ⟨-, hne, -⟩
    · obtain rfl := Json.array.inj hd
      have hvalues := elementsToJson_of_elements ih hss
      rcases hc with ⟨-, rfl⟩ | ⟨-, rfl⟩ <;> exact congrArg Json.array hvalues
    · exact absurd rfl hne
  | directive d path =>
    intro c' h
    rw [Clause.key, Clause.toJson, clause_directive] at h
    rw [← Except.ok.inj h]

/-- **Writing a selector and reading it back.** If no path is a key with a meaning of its own, this
collapses the selector: every selector object, at every depth, keeps for each key the last clause at
the place of the first one. It gives the selector itself just if, moreover, no two clauses of one
object have the same key. Whatever it gives has the same document. -/
theorem ofCollapsed_toJson (s : Selector) :
    (s.Unreserved → ofCollapsed s.toJson = .ok s.collapse) ∧
      (ofCollapsed s.toJson = .ok s ↔ s.Unreserved ∧ s.Distinct) ∧
        ∀ t, ofCollapsed s.toJson = .ok t → t.toJson = s.toJson := by
  -- the document repeats no key, so collapsing it first changes nothing
  have hread : ofCollapsed s.toJson = ofJson s.toJson := by rw [ofCollapsed, s.collapse_toJson]
  have hcollapse (h : s.Unreserved) : ofCollapsed s.toJson = .ok s.collapse := by
    rw [hread, ofJson_eq_element]
    exact element_toJson fun c hc => clause_toJson (h.1 c hc) (h.2 c hc)
  refine ⟨hcollapse, ⟨fun h => ?_, fun ⟨hu, hd⟩ => ?_⟩, fun t ht => ?_⟩
  · rw [hread] at h
    exact ⟨unreserved_of_ofJson h, distinct_of_ofJson h⟩
  · rw [hcollapse hu, hd.collapse_eq_self]
  · rw [hread, ofJson_eq_element] at ht
    exact toJson_of_element (fun c _ => toJson_of_clause c) ht

/-- A key that is repeated inside of a group. -/
theorem ofCollapsed_toJson_repeated :
    ofCollapsed (toJson [.any [[.equals "a" (.bool true), .equals "a" (.bool false)]]]) =
        .ok [.any [[.equals "a" (.bool false)]]] ∧
      toJson [.any [[.equals "a" (.bool false)]]] =
        toJson [.any [[.equals "a" (.bool true), .equals "a" (.bool false)]]] := by
  have ha : "a" ∉ reservedKeys := by decide
  have hunreserved :
      Unreserved [.any [[.equals "a" (.bool true), .equals "a" (.bool false)]]] := by
    simp [Unreserved, Everywhere, Clause.Inside, Clause.IsUnreserved, ha]
  have hread := (ofCollapsed_toJson _).1 hunreserved
  have hcollapse : collapse [.any [[.equals "a" (.bool true), .equals "a" (.bool false)]]] =
      [.any [[.equals "a" (.bool false)]]] := by
    simp only [collapse, Clause.collapse, List.map_cons, List.map_nil]
    rfl
  rw [hcollapse] at hread
  exact ⟨hread, (ofCollapsed_toJson _).2.2 _ hread⟩

end Selector

end DocSelect
