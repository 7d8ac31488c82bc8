import DocSelect.Proofs.DistinctKeys
import DocSelect.Proofs.SelectorRoundTrip
/-!
# The grammar of selectors

Which documents are selectors is said by rules on documents alone, and which selector a document
spells by rules on both. Reading accepts the first and gives the second.

* `Json.IsSelector` : the grammar of selector objects;
* `Selector.Spells` : a document spells a selector, one entry for each clause, in order;
* `Selector.ofJson_eq_ok_iff` : **reading gives the selector that the document spells**;
* `Selector.exists_spells_iff` : **the documents that spell a selector are those of the grammar**;
* `Selector.ofJson_grammar` : **reading accepts the grammar and loses nothing**.
-/

namespace DocSelect

/-! ## The grammar -/

/-- The keys that an operator object may have. -/
def operatorKeys : List String :=
  ["$eq", "$lt", "$lte", "$gt", "$gte", "$ne", "$like", "$glob", "$regexp", "$exists"]

namespace Json

/-- A truth value, a number or a string. -/
inductive IsScalar : Json → Prop
  /-- A truth value. -/
  | bool (b : Bool) : IsScalar (.bool b)
  /-- A number. -/
  | number (n : Number) : IsScalar (.number n)
  /-- A string. -/
  | string (s : String) : IsScalar (.string s)

mutual
/-- A selector object: its keys are distinct, and under each stands what may stand there. -/
inductive IsSelector : Json → Prop
  /-- An object. -/
  | object {entries : List (String × Json)} (hkeys : (entries.map Prod.fst).Nodup)
      (hentries : ∀ e ∈ entries, IsEntry e.1 e.2) : IsSelector (.object entries)
/-- A value that may stand under a key in a selector object. -/
inductive IsEntry : String → Json → Prop
  /-- An array of selector objects, under the key of a group. -/
  | group {key : String} {items : List Json} (hkey : key = "$and" ∨ key = "$or")
      (hitems : ∀ d ∈ items, IsSelector d) : IsEntry key (.array items)
  /-- A path, under the key of a directive. -/
  | directive {key : String} (path : String)
      (hkey : key = "$exists" ∨ key = "$null" ∨ key = "$notnull") : IsEntry key (.string path)
  /-- A scalar, under any other key. -/
  | scalar {key : String} {d : Json} (hkey : key ∉ reservedKeys) (hd : d.IsScalar) : IsEntry key d
  /-- An object with an operator and its operand as the only entry, under any other key. -/
  | operator {key op : String} {operand : Json} (hkey : key ∉ reservedKeys)
      (hop : op ∈ operatorKeys) (hoperand : operand.IsScalar) :
      IsEntry key (.object [(op, operand)])
end

/-! ## Tests for presence -/

/-- The operand of a test for presence as a truth value: what is no truth value counts as true. -/
def presenceFlag : Json → Json
  | .bool b => .bool b
  | _ => .bool true

mutual
/-- The selector object in which every operator for presence has a truth value as its operand. -/
def flagPresence : Json → Json
  | .object entries => .object (flagEntries entries)
  | d => d
termination_by structural d => d
/-- The entries of a selector object. -/
def flagEntries : List (String × Json) → List (String × Json)
  | [] => []
  | (key, d) :: rest => (key, flagValue d) :: flagEntries rest
termination_by structural entries => entries
/-- A value in a selector object: an object is an operator with its operand. -/
def flagValue : Json → Json
  | .array items => .array (flagItems items)
  | .object [(op, operand)] =>
    .object [(op, if op = existsKey then presenceFlag operand else operand)]
  | d => d
termination_by structural d => d
/-- The elements of a group. -/
def flagItems : List Json → List Json
  | [] => []
  | d :: rest => flagPresence d :: flagItems rest
termination_by structural items => items
end

theorem flagEntries_eq_map (entries : List (String × Json)) :
    flagEntries entries = entries.map fun e => (e.1, flagValue e.2) := by
  induction entries with
  | nil => rfl
  | cons e rest ih => simp [flagEntries, ih]

theorem flagItems_eq_map (items : List Json) : flagItems items = items.map flagPresence := by
  induction items with
  | nil => rfl
  | cons d rest ih => simp [flagItems, ih]

end Json

/-! ## What a document spells -/

/-- The scalar as the operand of a test for presence. -/
def Scalar.flag : Scalar → Bool
  | .bool b => b
  | _ => true

namespace Selector

mutual
/-- The document spells the selector: an object with distinct keys and one entry for each clause,
in order. -/
inductive Spells : Json → List Clause → Prop
  /-- The entries spell the clauses. -/
  | object {entries : List (String × Json)} {s : List Clause}
      (hkeys : (entries.map Prod.fst).Nodup) (hclauses : List.Forall₂ SpellsClause entries s) :
      Spells (.object entries) s
/-- The entry spells the clause. -/
inductive SpellsClause : String × Json → Clause → Prop
  /-- An array with one element for each selector, in order. -/
  | all {items : List Json} {ss : List (List Clause)} (h : List.Forall₂ Spells items ss) :
      SpellsClause (allKey, .array items) (.all ss)
  /-- An array with one element for each selector, in order. -/
  | any {items : List Json} {ss : List (List Clause)} (h : List.Forall₂ Spells items ss) :
      SpellsClause (anyKey, .array items) (.any ss)
  /-- The path, under the key of the directive. -/
  | directive (d : Directive) (path : String) :
      SpellsClause (d.key, .string path) (.directive d path)
  /-- The value to equal, under the path. -/
  | equals {path : String} (hpath : path ∉ reservedKeys) (v : Scalar) :
      SpellsClause (path, v.toJson) (.equals path v)
  /-- The comparison with its operand, under the path. -/
  | compare {path : String} (hpath : path ∉ reservedKeys) (op : Comparison) (v : Scalar) :
      SpellsClause (path, .object [(op.key, v.toJson)]) (.field path (.compare op v))
  /-- The test for presence with its operand, under the path. -/
  | present {path : String} (hpath : path ∉ reservedKeys) (v : Scalar) :
      SpellsClause (path, .object [(existsKey, v.toJson)]) (.field path (.present v.flag))
end

/-! ## Reading gives what the document spells -/

section

variable {α β : Type} {R S : α → β → Prop}

theorem forall₂_congr_right {l : List α} {m : List β} (h : ∀ b ∈ m, ∀ a, R a b ↔ S a b) :
    List.Forall₂ R l m ↔ List.Forall₂ S l m := by
  induction m generalizing l with
  | nil => rw [List.forall₂_nil_right_iff, List.forall₂_nil_right_iff]
  | cons b m ih =>
    rw [List.forall_mem_cons] at h
    rw [List.forall₂_cons_right_iff, List.forall₂_cons_right_iff]
    simp only [h.1, ih h.2]

end

/-- An object is read as a selector if it spells it, when this holds of each clause. -/
theorem element_eq_ok_iff {d : Json} {s : List Clause}
    (h : ∀ c ∈ s, ∀ e : String × Json, clause e.1 e.2 = .ok c ↔ SpellsClause e c) :
    element d = .ok s ↔ Spells d s := by
  constructor
  · intro hd
    obtain ⟨entries, rfl, hs⟩ := element_eq_ok hd
    obtain ⟨hkeys, -, hclauses⟩ := clauses_eq_ok_iff.1 hs
    exact .object hkeys ((forall₂_congr_right h).1 hclauses)
  · intro hd
    cases hd with
    | object hkeys hclauses =>
      rw [element, clauses_eq_ok_iff]
      exact ⟨hkeys, fun _ _ => List.not_mem_nil, (forall₂_congr_right h).2 hclauses⟩

theorem elements_eq_ok_iff_spells {items : List Json} {ss : List (List Clause)}
    (h : ∀ s ∈ ss, ∀ c ∈ s, ∀ e : String × Json, clause e.1 e.2 = .ok c ↔ SpellsClause e c) :
    elements items = .ok ss ↔ List.Forall₂ Spells items ss := by
  rw [elements_eq_ok_iff]
  apply forall₂_congr_right
  intro s hs d
  exact element_eq_ok_iff (h s hs)

theorem fieldTest_present (path : String) (whole : Json) (v : Scalar) :
    fieldTest path whole [(existsKey, v.toJson)] = .ok (.field path (.present v.flag)) := by
  cases v <;> rfl

/-- What is read of an operator object is what it spells. -/
theorem spellsClause_of_fieldTest {path : String} {whole : Json} {entries : List (String × Json)}
    {c : Clause} (hpath : path ∉ reservedKeys) (h : fieldTest path whole entries = .ok c) :
    SpellsClause (path, .object entries) c := by
  unfold fieldTest at h
  split at h
  · next op operand =>
    split at h
    · next hop =>
      subst hop
      split at h
      · next b hb =>
        rw [← Except.ok.inj h, ← Scalar.toJson_of_ofJson? hb]
        exact .present hpath (.bool b)
      · next v hne hv =>
        have hflag : v.flag = true := by
          cases v with
          | bool b => exact (hne b rfl).elim
          | _ => rfl
        rw [← Except.ok.inj h, ← Scalar.toJson_of_ofJson? hv, ← hflag]
        exact .present hpath v
      · cases h
    · split at h
      · next op' hop =>
        have hkey : op'.key = op := by simpa using List.find?_some hop
        split at h
        · next v hv =>
          rw [← Except.ok.inj h, ← Scalar.toJson_of_ofJson? hv, ← hkey]
          exact .compare hpath op' v
        · cases h
      · cases h
  · cases h

/-- What is read of an entry is what it spells, unless it was read as a group. -/
theorem spellsClause_or_group {key : String} {d : Json} {c : Clause} (h : clause key d = .ok c) :
    SpellsClause (key, d) c ∨ ∃ items ss, d = .array items ∧ elements items = .ok ss ∧
      (key = allKey ∧ c = .all ss ∨ key = anyKey ∧ c = .any ss) := by
  rcases clause_eq_ok h with hgroup | ⟨hall, hany, hleaf⟩
  · exact .inr hgroup
  · left
    have hpath (hnone : Directive.ofKey? key = none) : key ∉ reservedKeys := by
      rw [mem_reservedKeys_iff]
      simp [hall, hany, hnone]
    rcases leafClause_eq_ok hleaf with ⟨directive, path, rfl, rfl, rfl⟩ | ⟨hnone, v, hv, rfl⟩ |
      ⟨hnone, entries, rfl, htest⟩
    · exact .directive directive path
    · rw [← Scalar.toJson_of_ofJson? hv]
      exact .equals (hpath hnone) v
    · exact spellsClause_of_fieldTest (hpath hnone) htest

/-- What is read of an entry as a clause that is no group is what the entry spells. -/
theorem spellsClause_of_clause {key : String} {d : Json} {c : Clause} (hall : ∀ ss, c ≠ .all ss)
    (hany : ∀ ss, c ≠ .any ss) (h : clause key d = .ok c) : SpellsClause (key, d) c := by
  rcases spellsClause_or_group h with h | ⟨_, ss, -, -, ⟨-, hc⟩ | ⟨-, hc⟩⟩
  · exact h
  · exact (hall ss hc).elim
  · exact (hany ss hc).elim

/-- **An entry is read as the clause that it spells.** -/
theorem clause_eq_ok_iff (c : Clause) :
    ∀ e : String × Json, clause e.1 e.2 = .ok c ↔ SpellsClause e c := by
  -- by induction on the clause: a group is read from the array of its elements
  induction c with
  | equals path v =>
    rintro ⟨key, d⟩
    constructor
    · intro h
      exact spellsClause_of_clause (by simp) (by simp) h
    · intro h
      cases h with
      | equals hpath _ =>
        rw [clause_of_field hpath]
        cases v <;> rfl
  | field path test =>
    rintro ⟨key, d⟩
    constructor
    · intro h
      exact spellsClause_of_clause (by simp) (by simp) h
    · intro h
      cases h with
      | compare hpath op v =>
        rw [clause_of_field hpath]
        exact fieldTest_toJson path (.object [(op.key, v.toJson)]) (.compare op v)
      | present hpath v =>
        rw [clause_of_field hpath]
        exact fieldTest_present path (.object [(existsKey, v.toJson)]) v
  | directive directive path =>
    rintro ⟨key, d⟩
    constructor
    · intro h
      exact spellsClause_of_clause (by simp) (by simp) h
    · intro h
      cases h with
      | directive _ _ => exact clause_directive directive path
  | all ss ih =>
    rintro ⟨key, d⟩
    constructor
    · intro h
      rcases spellsClause_or_group h with h | ⟨items, ss', rfl, hss, ⟨rfl, hc⟩ | ⟨-, hc⟩⟩
      · exact h
      · cases hc
        exact .all ((elements_eq_ok_iff_spells ih).1 hss)
      · cases hc
    · intro h
      cases h with
      | all h => exact clause_all ((elements_eq_ok_iff_spells ih).2 h)
  | any ss ih =>
    rintro ⟨key, d⟩
    constructor
    · intro h
      rcases spellsClause_or_group h with h | ⟨items, ss', rfl, hss, ⟨-, hc⟩ | ⟨rfl, hc⟩⟩
      · exact h
      · cases hc
      · cases hc
        exact .any ((elements_eq_ok_iff_spells ih).1 hss)
    · intro h
      cases h with
      | any h => exact clause_any ((elements_eq_ok_iff_spells ih).2 h)

/-- **A document is read as the selector that it spells.** -/
theorem ofJson_eq_ok_iff {d : Json} {s : Selector} : ofJson d = .ok s ↔ Spells d s := by
  rw [ofJson_eq_element]
  exact element_eq_ok_iff fun c _ => clause_eq_ok_iff c

/-! ## The documents that spell a selector -/

end Selector

theorem Json.isScalar_toJson (v : Scalar) : v.toJson.IsScalar := by
  cases v
  · exact .bool _
  · exact .number _
  · exact .string _

theorem Json.IsScalar.exists_toJson {d : Json} (h : d.IsScalar) : ∃ v : Scalar, v.toJson = d := by
  cases h with
  | bool b => exact ⟨.bool b, rfl⟩
  | number n => exact ⟨.number n, rfl⟩
  | string s => exact ⟨.string s, rfl⟩

theorem mem_operatorKeys_iff {key : String} :
    key ∈ operatorKeys ↔ (∃ op : Comparison, op.key = key) ∨ key = existsKey := by
  constructor
  · intro h
    simp only [operatorKeys, List.mem_cons, List.not_mem_nil, or_false] at h
    rcases h with rfl | rfl | rfl | rfl | rfl | rfl | rfl | rfl | rfl | rfl
    · exact .inl ⟨.eq, rfl⟩
    · exact .inl ⟨.lt, rfl⟩
    · exact .inl ⟨.lte, rfl⟩
    · exact .inl ⟨.gt, rfl⟩
    · exact .inl ⟨.gte, rfl⟩
    · exact .inl ⟨.ne, rfl⟩
    · exact .inl ⟨.like, rfl⟩
    · exact .inl ⟨.glob, rfl⟩
    · exact .inl ⟨.regexp, rfl⟩
    · exact .inr rfl
  · rintro (⟨op, rfl⟩ | rfl)
    · cases op <;> decide
    · decide

namespace Selector

open Json

/-- A document that spells a selector is a selector object, if this holds of each clause. -/
theorem Spells.isSelector_of_clauses {d : Json} {s : List Clause} (hd : Spells d s)
    (h : ∀ c ∈ s, ∀ e : String × Json, SpellsClause e c → IsEntry e.1 e.2) : d.IsSelector := by
  cases hd with
  | object hkeys hclauses =>
    refine .object hkeys ?_
    intro e he
    obtain ⟨c, hc, hec⟩ := exists_of_mem_forall₂ hclauses.flip he
    exact h c hc e hec

/-- An entry that spells a clause is one of the grammar. -/
theorem isEntry_of_spellsClause (c : Clause) :
    ∀ e : String × Json, SpellsClause e c → IsEntry e.1 e.2 := by
  have hgroup {items : List Json} {ss : List (List Clause)} (h : List.Forall₂ Spells items ss)
      (ih : ∀ s ∈ ss, ∀ c ∈ s, ∀ e : String × Json, SpellsClause e c → IsEntry e.1 e.2) :
      ∀ d ∈ items, d.IsSelector := by
    intro d hd
    obtain ⟨s, hs, hds⟩ := exists_of_mem_forall₂ h.flip hd
    exact hds.isSelector_of_clauses (ih s hs)
  induction c with
  | equals path v =>
    intro e h
    cases h with
    | equals hpath _ => exact .scalar hpath (isScalar_toJson v)
  | field path test =>
    intro e h
    cases h with
    | compare hpath op v =>
      exact .operator hpath (mem_operatorKeys_iff.2 (.inl ⟨op, rfl⟩)) (isScalar_toJson v)
    | present hpath v =>
      exact .operator hpath (mem_operatorKeys_iff.2 (.inr rfl)) (isScalar_toJson v)
  | directive d path =>
    intro e h
    cases h with
    | directive _ _ =>
      have hkey : d.key = "$exists" ∨ d.key = "$null" ∨ d.key = "$notnull" := by
        cases d <;> decide
      exact .directive path hkey
  | all ss ih =>
    intro e h
    cases h with
    | all h => exact .group (.inl rfl) (hgroup h ih)
  | any ss ih =>
    intro e h
    cases h with
    | any h => exact .group (.inr rfl) (hgroup h ih)

/-- A selector object spells a selector: the rules of the grammar, one by one. -/
theorem exists_spells {d : Json} (h : d.IsSelector) : ∃ s, Spells d s := by
  refine @IsSelector.rec (fun d _ => ∃ s, Spells d s)
    (fun key d _ => ∃ c, SpellsClause (key, d) c) ?object ?group ?directive ?scalar ?operator d h
  case object =>
    intro entries hkeys _ ih
    obtain ⟨s, hs⟩ := exists_forall₂ ih
    exact ⟨s, .object hkeys hs⟩
  case group =>
    intro key items hkey _ ih
    obtain ⟨ss, hss⟩ := exists_forall₂ ih
    rcases hkey with rfl | rfl
    · exact ⟨.all ss, .all hss⟩
    · exact ⟨.any ss, .any hss⟩
  case directive =>
    intro key path hkey
    rcases hkey with rfl | rfl | rfl
    · exact ⟨_, .directive .exists path⟩
    · exact ⟨_, .directive .null path⟩
    · exact ⟨_, .directive .notNull path⟩
  case scalar =>
    intro key d hkey hd
    obtain ⟨v, rfl⟩ := hd.exists_toJson
    exact ⟨_, .equals hkey v⟩
  case operator =>
    intro key op operand hkey hop hoperand
    obtain ⟨v, rfl⟩ := hoperand.exists_toJson
    rcases mem_operatorKeys_iff.1 hop with ⟨op, rfl⟩ | rfl
    · exact ⟨_, .compare hkey op v⟩
    · exact ⟨_, .present hkey v⟩

/-- **The documents that spell a selector are those of the grammar.** -/
theorem exists_spells_iff {d : Json} : (∃ s, Spells d s) ↔ d.IsSelector := by
  constructor
  · rintro ⟨s, hs⟩
    exact hs.isSelector_of_clauses fun c _ => isEntry_of_spellsClause c
  · exact exists_spells

/-! ## The document of what was read -/

theorem key_of_spellsClause {e : String × Json} {c : Clause} (h : SpellsClause e c) :
    c.key = e.1 := by
  cases h <;> rfl

/-- The document of the selector that a document spells, if the values of its clauses are known. -/
theorem Spells.toJson_of_clauses {d : Json} {s : List Clause} (hd : Spells d s)
    (h : ∀ c ∈ s, ∀ e : String × Json, SpellsClause e c → c.toJson = flagValue e.2) :
    toJson s = d.flagPresence := by
  cases hd with
  | @object entries _ hkeys hclauses =>
    -- the entries of the document that is written, one by one
    have hentries : List.Forall₂ (· = ·) (s.map fun c => (c.key, c.toJson))
        (entries.map fun e => (e.1, flagValue e.2)) := by
      rw [List.forall₂_map_left_iff, List.forall₂_map_right_iff]
      refine (((List.forall₂_and_left _ _).2 ⟨h, hclauses.flip⟩).imp ?_)
      rintro c e ⟨hc, hec⟩
      have hkey : c.key = e.1 := key_of_spellsClause hec
      rw [hkey, hc e hec]
    rw [List.forall₂_eq_eq_eq] at hentries
    rw [toJson, entriesToJson_eq_map, hentries, flagPresence, flagEntries_eq_map,
      Keyed.collapse_of_nodup]
    rw [List.map_map]
    exact hkeys

/-- The value of the clause that an entry spells. -/
theorem toJson_of_spellsClause (c : Clause) :
    ∀ e : String × Json, SpellsClause e c → c.toJson = flagValue e.2 := by
  have hgroup {items : List Json} {ss : List (List Clause)} (h : List.Forall₂ Spells items ss)
      (ih : ∀ s ∈ ss, ∀ c ∈ s, ∀ e : String × Json, SpellsClause e c → c.toJson = flagValue e.2) :
      Clause.elementsToJson ss = flagItems items := by
    have hvalues : List.Forall₂ (· = ·) (ss.map toJson) (items.map flagPresence) := by
      rw [List.forall₂_map_left_iff, List.forall₂_map_right_iff]
      refine (((List.forall₂_and_left _ _).2 ⟨ih, h.flip⟩).imp ?_)
      rintro s d ⟨hs, hds⟩
      exact hds.toJson_of_clauses hs
    rw [List.forall₂_eq_eq_eq] at hvalues
    rw [elementsToJson_eq_map, hvalues, flagItems_eq_map]
  induction c with
  | equals path v =>
    intro e h
    cases h with
    | equals _ _ => cases v <;> rfl
  | field path test =>
    intro e h
    cases h with
    | compare _ op v => cases op <;> rfl
    | present _ v => cases v <;> rfl
  | directive d path =>
    intro e h
    cases h with
    | directive _ _ => rfl
  | all ss ih =>
    intro e h
    cases h with
    | all h => exact congrArg Json.array (hgroup h ih)
  | any ss ih =>
    intro e h
    cases h with
    | any h => exact congrArg Json.array (hgroup h ih)

/-- **The selector that is read is written as the document**, its tests for presence with truth
values. -/
theorem toJson_of_spells {d : Json} {s : Selector} (h : Spells d s) : s.toJson = d.flagPresence :=
  h.toJson_of_clauses fun c _ => toJson_of_spellsClause c

end Selector

/-- **No object in a selector object repeats a key**, operator objects included. -/
theorem Json.IsSelector.keysDistinct {d : Json} (h : d.IsSelector) : d.KeysDistinct := by
  have hscalar {d : Json} (hd : d.IsScalar) : d.KeysDistinct := by
    cases hd <;> simp [KeysDistinct]
  refine @IsSelector.rec (fun d _ => d.KeysDistinct) (fun _ d _ => d.KeysDistinct)
    ?object ?group ?directive ?scalar ?operator d h
  case object =>
    intro entries hkeys _ ih
    rw [KeysDistinct]
    exact ⟨hkeys, ih⟩
  case group =>
    intro key items _ _ ih
    rw [KeysDistinct]
    exact ih
  case directive =>
    intro key path _
    exact hscalar (.string path)
  case scalar =>
    intro key d _ hd
    exact hscalar hd
  case operator =>
    intro key op operand _ _ hoperand
    rw [KeysDistinct]
    refine ⟨List.nodup_singleton op, ?_⟩
    intro e he
    rw [List.mem_singleton.1 he]
    exact hscalar hoperand

namespace Selector

/-- A selector that repeats no key and has no path with a meaning of its own is read back. -/
theorem ofCollapsed_toJson_of_distinct {s : Selector} (hu : s.Unreserved) (hd : s.Distinct) :
    ofCollapsed s.toJson = .ok s := by
  rw [ofCollapsed, s.collapse_toJson, ofJson_eq_element,
    element_toJson fun c hc => clause_toJson (hu.1 c hc) (hu.2 c hc), hd.collapse_eq_self]

/-- **Reading accepts the grammar of selectors and loses nothing.** A document is read just if it is
a selector object. What is read has one clause for each entry, in order and at every depth; no path
in it is a key with a meaning of its own, and no object repeats a key. It is written as the document
again, but for the operands of tests for presence, which have become truth values, and what is
written is read as the same selector. -/
theorem ofJson_grammar (d : Json) :
    ((∃ s, ofJson d = .ok s) ↔ d.IsSelector) ∧
      ∀ s, ofJson d = .ok s →
        Spells d s ∧ s.Unreserved ∧ s.Distinct ∧ d.KeysDistinct ∧ s.toJson = d.flagPresence ∧
          ofCollapsed s.toJson = .ok s := by
  have hgrammar : (∃ s, ofJson d = .ok s) ↔ d.IsSelector := by
    simp only [ofJson_eq_ok_iff]
    exact exists_spells_iff
  refine ⟨hgrammar, ?_⟩
  intro s hs
  have hspells : Spells d s := ofJson_eq_ok_iff.1 hs
  have hu : s.Unreserved := unreserved_of_ofJson hs
  have hd : s.Distinct := distinct_of_ofJson hs
  have hkeys : d.KeysDistinct := (hgrammar.1 ⟨s, hs⟩).keysDistinct
  exact ⟨hspells, hu, hd, hkeys, toJson_of_spells hspells, ofCollapsed_toJson_of_distinct hu hd⟩

/-- One key as a directive and, inside of a group, as an operator with a number as its operand. -/
theorem ofJson_grammar_presence :
    ofJson (.object [("$exists", .string "a"),
        ("$or", .array [.object [("b", .object [("$exists", .number .zero)])], .object []])]) =
      .ok [.directive .exists "a", .any [[.field "b" (.present true)], []]] ∧
    toJson [.directive .exists "a", .any [[.field "b" (.present true)], []]] =
      .object [("$exists", .string "a"),
        ("$or", .array [.object [("b", .object [("$exists", .bool true)])], .object []])] := by
  have hread : ofJson (.object [("$exists", .string "a"),
        ("$or", .array [.object [("b", .object [("$exists", .number .zero)])], .object []])]) =
      .ok [.directive .exists "a", .any [[.field "b" (.present true)], []]] := by
    rfl
  exact ⟨hread, ((ofJson_grammar _).2 _ hread).2.2.2.2.1⟩

end Selector

end DocSelect
