import DocSelect.Selector.Basic
/-!
# Documents from selectors

A selector is written as an object, one entry for each clause under the clause's key. A later
clause with the same key takes the value of the entry and leaves its place.

* `Selector.toJson` is that document.
-/

namespace DocSelect

mutual
/-- The value of the entry of a clause. -/
def Clause.toJson : Clause → Json
  | .equals _ v => v.toJson
  | .field _ test => .object [(test.key, test.operand.toJson)]
  | .all selectors => .array (Clause.elementsToJson selectors)
  | .any selectors => .array (Clause.elementsToJson selectors)
  | .directive _ path => .string path
termination_by structural c => c
/-- The entries of a selector, keys as often as they occur. -/
def Clause.entriesToJson : List Clause → List (String × Json)
  | [] => []
  | c :: rest => (c.key, Clause.toJson c) :: Clause.entriesToJson rest
termination_by structural cs => cs
/-- The elements of a group. -/
def Clause.elementsToJson : List (List Clause) → List Json
  | [] => []
  | s :: rest => .object (Keyed.collapse (Clause.entriesToJson s)) :: Clause.elementsToJson rest
termination_by structural ss => ss
end

namespace Selector

/-- The document that spells a selector. -/
def toJson (s : Selector) : Json := .object (Keyed.collapse (Clause.entriesToJson s))

theorem entriesToJson_eq_map (s : Selector) :
    Clause.entriesToJson s = s.map fun c => (c.key, c.toJson) := by
  induction s with
  | nil => rfl
  | cons c rest ih => simp [Clause.entriesToJson, ih]

theorem elementsToJson_eq_map (ss : List Selector) :
    Clause.elementsToJson ss = ss.map toJson := by
  induction ss with
  | nil => rfl
  | cons s rest ih => simp [Clause.elementsToJson, ih, toJson]

end Selector

end DocSelect
