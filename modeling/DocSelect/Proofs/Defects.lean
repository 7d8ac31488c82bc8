import DocSelect.Proofs.SelectorGrammar
/-!
# The defects of a selector document

What is wrong with a document is collected here without stopping, in the order of the text: entry by
entry, and inside of an entry whatever its value has. Reading stops instead, and what it reports is
the first defect of the list.

* `Json.defects` : the defects of a document, in order;
* `Selector.Reports` : what was read agrees with a list of defects; `Selector.Reports.bind` carries
  this through one step and what follows it;
* `Selector.reports_clause` : reading an entry agrees with the defects of its value;
* `Selector.first_defect` : **reading reports the first defect**, with all that it quotes, and there
  is none just if the document is a selector object.
-/

namespace DocSelect

/-! ## The list of defects -/

namespace Json

/-- The defects of an operand that has to be a scalar. -/
def operandDefects (directive : String) : Json → List SelectorError
  | .bool _ | .number _ | .string _ => []
  | d => [.invalidOperand directive d.render]

/-- The defects of an operand that has to be a path. -/
def pathDefects (directive : String) : Json → List SelectorError
  | .string _ => []
  | d => [.invalidOperand directive d.render]

/-- The defects of the condition on a field: a scalar has none, and an object with one entry those
of its operator or else of its operand. -/
def conditionDefects (path : String) : Json → List SelectorError
  | .bool _ | .number _ | .string _ => []
  | .object [(op, operand)] =>
    if op ∈ operatorKeys then operandDefects op operand
    else [.invalidOperator op (Json.object [(op, operand)]).render]
  | d => [.invalidFieldCondition path d.render]

/-- The defects of a value under a key that is not the one of a group. -/
def leafDefects (key : String) (d : Json) : List SelectorError :=
  if key ∈ ["$exists", "$null", "$notnull"] then pathDefects key d else conditionDefects key d

mutual
/-- The defects of the entries of an object, in order. Under a key that stood `before`, the value is
not looked at. -/
def entriesDefects (before : List String) : List (String × Json) → List SelectorError
  | [] => []
  | (key, d) :: rest =>
    (if key ∈ before then [.duplicateKey key] else valueDefects key d) ++
      entriesDefects (key :: before) rest
termination_by structural entries => entries
/-- The defects of the value under a key. -/
def valueDefects (key : String) : Json → List SelectorError
  | .array items =>
    if key ∈ ["$and", "$or"] then elementsDefects items else leafDefects key (.array items)
  | d => if key ∈ ["$and", "$or"] then [.expectedArray key d.render] else leafDefects key d
termination_by structural d => d
/-- The defects of the elements of a group, in order. -/
def elementsDefects : List Json → List SelectorError
  | [] => []
  | d :: rest => elementDefects d ++ elementsDefects rest
termination_by structural items => items
/-- The defects of an element of a group. -/
def elementDefects : Json → List SelectorError
  | .object entries => entriesDefects [] entries
  | .array items => [.nestedArrayNotAllowed (Json.array items).render]
  | d => [.invalidSelectorElement d.render]
termination_by structural d => d
end

/-- The defects of a document, in the order of its text. -/
def defects : Json → List SelectorError
  | .object entries => entriesDefects [] entries
  | d => [.invalidSelectorRoot d.render]

end Json

namespace Selector

open Json

/-! ## Stopping at the first defect -/

/-- Something was read and there are no defects, or the error is the first of them. -/
def Reports {α : Type} (x : Except SelectorError α) (defects : List SelectorError) : Prop :=
  match x with
  | .ok _ => defects = []
  | .error e => defects.head? = some e

namespace Reports

variable {α β : Type} {x : Except SelectorError α} {l m : List SelectorError}

theorem ok (a : α) : Reports (.ok a) [] := rfl

theorem error (e : SelectorError) (l : List SelectorError) :
    Reports (.error e : Except SelectorError α) (e :: l) := rfl

/-- What follows a step is looked at only if the step has no defects. -/
theorem bind {f : α → Except SelectorError β} (hx : Reports x l) (hf : ∀ a, Reports (f a) m) :
    Reports (x >>= f) (l ++ m) := by
  cases x with
  | ok a =>
    obtain rfl : l = [] := hx
    exact hf a
  | error e =>
    have hhead : l.head? = some e := hx
    show (l ++ m).head? = some e
    rw [List.head?_append, hhead]
    rfl

/-- What is done with the result has no defects of its own. -/
theorem bind_ok {f : α → β} (hx : Reports x l) : Reports (x >>= fun a => .ok (f a)) l := by
  have h := hx.bind fun a => Reports.ok (f a)
  rw [List.append_nil] at h
  exact h

/-- A run succeeds if its list of defects is empty. -/
theorem ok_iff (h : Reports x l) : (∃ a, x = .ok a) ↔ l = [] := by
  cases x with
  | ok a => exact iff_of_true ⟨a, rfl⟩ h
  | error e =>
    have hhead : l.head? = some e := h
    refine iff_of_false (fun ⟨a, ha⟩ => nomatch ha) ?_
    rintro rfl
    cases hhead

/-- Otherwise it fails with the first of them. -/
theorem error_iff (h : Reports x l) (e : SelectorError) : x = .error e ↔ l.head? = some e := by
  cases x with
  | ok a =>
    obtain rfl : l = [] := h
    exact iff_of_false (fun he => nomatch he) (fun he => nomatch he)
  | error e' =>
    have hhead : l.head? = some e' := h
    rw [hhead, Except.error.injEq, Option.some.injEq]

end Reports

/-! ## Entries that are no groups -/

theorem reports_directiveClause (d : Directive) (v : Json) :
    Reports (directiveClause d v) (pathDefects d.key v) := by
  cases v with
  | string path => exact .ok _
  | _ => exact .error _ []

/-- An operator object: the operator is looked at before its operand. -/
theorem reports_fieldTest (path op : String) (operand : Json) :
    Reports (fieldTest path (.object [(op, operand)]) [(op, operand)])
      (conditionDefects path (.object [(op, operand)])) := by
  rw [conditionDefects, fieldTest]
  by_cases hexists : op = existsKey
  · rw [if_pos hexists, if_pos (mem_operatorKeys_iff.2 (.inr hexists))]
    cases operand with
    | bool b => exact .ok _
    | number n => exact .ok _
    | string s => exact .ok _
    | _ => exact .error _ []
  · rw [if_neg hexists]
    cases hop : Comparison.ofKey? op with
    | some c =>
      have hkey : c.key = op := by simpa using List.find?_some hop
      rw [if_pos (mem_operatorKeys_iff.2 (.inl ⟨c, hkey⟩))]
      cases operand with
      | bool b => exact .ok _
      | number n => exact .ok _
      | string s => exact .ok _
      | _ => exact .error _ []
    | none =>
      have hmem : op ∉ operatorKeys := by
        intro hmem
        rcases mem_operatorKeys_iff.1 hmem with ⟨c, rfl⟩ | h
        · rw [Comparison.ofKey?_key] at hop
          cases hop
        · exact hexists h
      rw [if_neg hmem]
      exact .error _ []

theorem reports_fieldClause (path : String) (d : Json) :
    Reports (fieldClause path d) (conditionDefects path d) := by
  cases d with
  | null => exact .error _ []
  | bool b => exact .ok _
  | number n => exact .ok _
  | string s => exact .ok _
  | array items => exact .error _ []
  | object entries =>
    match entries with
    | [] => exact .error _ []
    | [(op, operand)] => exact reports_fieldTest path op operand
    | _ :: _ :: _ => exact .error _ []

theorem reports_leafClause (key : String) (d : Json) :
    Reports (leafClause key d) (leafDefects key d) := by
  rw [leafClause, leafDefects]
  cases hkey : Directive.ofKey? key with
  | some directive =>
    obtain rfl := Directive.ofKey?_eq_some hkey
    rw [if_pos (by cases directive <;> decide)]
    exact reports_directiveClause directive d
  | none =>
    have hmem : key ∉ ["$exists", "$null", "$notnull"] := by
      intro hmem
      simp only [List.mem_cons, List.not_mem_nil, or_false] at hmem
      rcases hmem with rfl | rfl | rfl <;> exact absurd hkey (by decide)
    rw [if_neg hmem]
    exact reports_fieldClause key d

/-! ## Objects and groups -/

/-- Entries, one after the other: each agrees with its own defects. -/
theorem reports_clauses {entries : List (String × Json)}
    (h : ∀ e ∈ entries, ∀ key, Reports (clause key e.2) (valueDefects key e.2))
    (before : List String) : Reports (clauses before entries) (entriesDefects before entries) := by
  induction entries generalizing before with
  | nil => exact .ok []
  | cons e rest ih =>
    obtain ⟨key, d⟩ := e
    rw [List.forall_mem_cons] at h
    rw [clauses, entriesDefects]
    by_cases hkey : key ∈ before
    · rw [if_pos hkey, if_pos hkey]
      exact .error _ _
    · rw [if_neg hkey, if_neg hkey]
      exact (h.1 key).bind fun c => (ih h.2 (key :: before)).bind_ok

/-- Elements of a group, one after the other. -/
theorem reports_elements {items : List Json}
    (h : ∀ d ∈ items, Reports (element d) (elementDefects d)) :
    Reports (elements items) (elementsDefects items) := by
  induction items with
  | nil => exact .ok []
  | cons d rest ih =>
    rw [List.forall_mem_cons] at h
    rw [elements, elementsDefects]
    exact h.1.bind fun s => (ih h.2).bind_ok

theorem mem_groupKeys_iff {key : String} : key ∈ ["$and", "$or"] ↔ key = allKey ∨ key = anyKey := by
  rw [List.mem_cons, List.mem_singleton]
  rfl

/-- A group agrees with the defects of its elements. -/
theorem reports_clause_array {items : List Json}
    (h : Reports (elements items) (elementsDefects items)) (key : String) :
    Reports (clause key (.array items)) (valueDefects key (.array items)) := by
  rw [clause, valueDefects]
  by_cases hall : key = allKey
  · rw [if_pos hall, if_pos (mem_groupKeys_iff.2 (.inl hall))]
    exact h.bind_ok
  · rw [if_neg hall]
    by_cases hany : key = anyKey
    · rw [if_pos hany, if_pos (mem_groupKeys_iff.2 (.inr hany))]
      exact h.bind_ok
    · have hmem : key ∉ ["$and", "$or"] := by
        rw [mem_groupKeys_iff, not_or]
        exact ⟨hall, hany⟩
      rw [if_neg hany, if_neg hmem]
      exact reports_leafClause key _

/-- What is no array is no group. -/
theorem reports_clause_of_ne_array {d : Json} (hd : ∀ items, d ≠ .array items) (key : String) :
    Reports (clause key d) (valueDefects key d) := by
  by_cases hkey : key = allKey ∨ key = anyKey
  · have hmem := mem_groupKeys_iff.2 hkey
    cases d with
    | array items => exact absurd rfl (hd items)
    | _ =>
      rw [clause, valueDefects, if_pos hkey, if_pos hmem]
      · exact .error _ []
      · simp
      · simp
  · have hmem := hkey
    rw [← mem_groupKeys_iff] at hmem
    cases d with
    | array items => exact absurd rfl (hd items)
    | _ =>
      rw [clause, valueDefects, if_neg hkey, if_neg hmem]
      · exact reports_leafClause key _
      · simp
      · simp

/-- **Reading an entry, or an element of a group, agrees with its defects.** -/
theorem reports_clause (d : Json) :
    (∀ key, Reports (clause key d) (valueDefects key d)) ∧
      Reports (element d) (elementDefects d) := by
  induction d with
  | array items ih =>
    have hitems := reports_elements fun d hd => (ih d hd).2
    exact ⟨reports_clause_array hitems, .error _ []⟩
  | object entries ih =>
    have hentries := reports_clauses (fun e he => (ih e he).1) []
    exact ⟨reports_clause_of_ne_array fun _ h => (nomatch h), hentries⟩
  | null => exact ⟨reports_clause_of_ne_array fun _ h => (nomatch h), .error _ []⟩
  | bool b => exact ⟨reports_clause_of_ne_array fun _ h => (nomatch h), .error _ []⟩
  | number n => exact ⟨reports_clause_of_ne_array fun _ h => (nomatch h), .error _ []⟩
  | string s => exact ⟨reports_clause_of_ne_array fun _ h => (nomatch h), .error _ []⟩

/-- Reading a selector reports the defects of the document; one that is no object has a single one.
-/
theorem reports_ofJson (d : Json) : Reports (ofJson d) d.defects := by
  cases d with
  | object entries => exact (reports_clause (.object entries)).2
  | _ => exact .error _ []

/-- **Reading reports the first defect**: a document is read just if it has no defects, which is
just if it is a selector object; otherwise the error, with all that it quotes, is the first of its
defects in the order of the text. -/
theorem first_defect (d : Json) :
    ((∃ s, ofJson d = .ok s) ↔ d.defects = []) ∧ (d.defects = [] ↔ d.IsSelector) ∧
      ∀ e, ofJson d = .error e ↔ d.defects.head? = some e := by
  have hreports := reports_ofJson d
  have hgrammar : (∃ s, ofJson d = .ok s) ↔ d.IsSelector := by
    simp only [ofJson_eq_ok_iff]
    exact exists_spells_iff
  exact ⟨hreports.ok_iff, hreports.ok_iff.symm.trans hgrammar, hreports.error_iff⟩

/-- The elements of a group come before the next entry; of a repeated key only the key counts. -/
example :
    (Json.object [("$or", .array [.null, .object [("$null", .null)]]), ("a", .object []),
      ("a", .null)]).defects =
      [.invalidSelectorElement "null", .invalidOperand "$null" "null",
        .invalidFieldCondition "a" "\x7b\x7d", .duplicateKey "a"] := by
  decide +kernel

end Selector

end DocSelect
