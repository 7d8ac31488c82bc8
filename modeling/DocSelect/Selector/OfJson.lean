import DocSelect.Selector.Basic
import DocSelect.Selector.Error
import DocSelect.Json.Reader
/-!
# Selectors from documents

The grammar of selectors over JSON documents. Entries are read in order, and the first defect is
reported.

* `Selector.ofJson` reads a document as a selector; a repeated key is an error.
* `Selector.ofText` reads JSON text, `Selector.ofCollapsed` a document whose repeated keys
  collapse first.
-/

namespace DocSelect.Selector

/-- The test in an operator object: its only entry. -/
def fieldTest (path : String) (whole : Json) : List (String × Json) → Except SelectorError Clause
  | [(op, operand)] =>
    if op = existsKey then
      match Scalar.ofJson? operand with
      | some (.bool b) => .ok (.field path (.present b))
      | some _ => .ok (.field path (.present true))
      | none => .error (.invalidOperand op operand.render)
    else match Comparison.ofKey? op with
      | some c =>
        match Scalar.ofJson? operand with
        | some v => .ok (.field path (.compare c v))
        | none => .error (.invalidOperand op operand.render)
      | none => .error (.invalidOperator op whole.render)
  | _ => .error (.invalidFieldCondition path whole.render)

/-- The condition on a field: a scalar to equal, or an operator object. -/
def fieldClause (path : String) (d : Json) : Except SelectorError Clause :=
  match Scalar.ofJson? d with
  | some v => .ok (.equals path v)
  | none =>
    match d with
    | .object entries => fieldTest path d entries
    | _ => .error (.invalidFieldCondition path d.render)

/-- A directive with the path of its field. -/
def directiveClause (d : Directive) : Json → Except SelectorError Clause
  | .string path => .ok (.directive d path)
  | other => .error (.invalidOperand d.key other.render)

/-- A clause that is no group. -/
def leafClause (key : String) (d : Json) : Except SelectorError Clause :=
  match Directive.ofKey? key with
  | some directive => directiveClause directive d
  | none => fieldClause key d

mutual
/-- The clauses of an object; `seen` are the keys before these entries. -/
def clauses (seen : List String) : List (String × Json) → Except SelectorError (List Clause)
  | [] => .ok []
  | (key, d) :: rest =>
    if key ∈ seen then .error (.duplicateKey key)
    else do
      let c ← clause key d
      let cs ← clauses (key :: seen) rest
      .ok (c :: cs)
termination_by structural entries => entries
/-- The clause of one entry. -/
def clause (key : String) : Json → Except SelectorError Clause
  | .array items =>
    if key = allKey then do
      let ss ← elements items
      .ok (.all ss)
    else if key = anyKey then do
      let ss ← elements items
      .ok (.any ss)
    else leafClause key (.array items)
  | d =>
    if key = allKey ∨ key = anyKey then .error (.expectedArray key d.render)
    else leafClause key d
termination_by structural d => d
/-- The selectors of a group. -/
def elements : List Json → Except SelectorError (List (List Clause))
  | [] => .ok []
  | d :: rest => do
    let s ← element d
    let ss ← elements rest
    .ok (s :: ss)
termination_by structural items => items
/-- One selector of a group. -/
def element : Json → Except SelectorError (List Clause)
  | .object entries => clauses [] entries
  | .array items => .error (.nestedArrayNotAllowed (Json.array items).render)
  | d => .error (.invalidSelectorElement d.render)
termination_by structural d => d
end

/-- The selector that a document spells. -/
def ofJson : Json → Except SelectorError Selector
  | .object entries => clauses [] entries
  | d => .error (.invalidSelectorRoot d.render)

/-- The selector of a document whose repeated keys collapse first. -/
def ofCollapsed (d : Json) : Except SelectorError Selector := ofJson d.collapse

/-- The selector that a text spells. -/
def ofText (text : String) : Except SelectorError Selector :=
  match Json.read text with
  | .error f => .error (.json (f.message text.toList))
  | .ok d => ofJson d

end DocSelect.Selector
