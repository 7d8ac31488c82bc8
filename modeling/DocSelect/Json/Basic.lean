import DocSelect.Json.Number
import DocSelect.Keyed
/-!
# JSON documents

A `Json` is a document as its text spells it: the entries of an object keep their order, and a
key may occur more than once.

* `Json.collapse` is the document in which every object has each key once, the last value at the
  place of the first entry.
* `Json.depth` counts how deep arrays and objects nest.
-/

namespace DocSelect

/-- A JSON document, repeated keys included. -/
inductive Json
  /-- The null. -/
  | null
  /-- A truth value. -/
  | bool (b : Bool)
  /-- A number. -/
  | number (n : Number)
  /-- A string. -/
  | string (s : String)
  /-- The items of an array, in order. -/
  | array (items : List Json)
  /-- The entries of an object, in order. -/
  | object (entries : List (String × Json))

namespace Json

instance : Inhabited Json := ⟨.null⟩

mutual
/-- Equality of documents is decidable. -/
def decEq : (a b : Json) → Decidable (a = b)
  | .null, .null => isTrue rfl
  | .bool a, .bool b => if h : a = b then isTrue (by rw [h]) else isFalse (by simp [h])
  | .number a, .number b => if h : a = b then isTrue (by rw [h]) else isFalse (by simp [h])
  | .string a, .string b => if h : a = b then isTrue (by rw [h]) else isFalse (by simp [h])
  | .array a, .array b =>
    match decEqItems a b with
    | isTrue h => isTrue (by rw [h])
    | isFalse h => isFalse (by simp [h])
  | .object a, .object b =>
    match decEqEntries a b with
    | isTrue h => isTrue (by rw [h])
    | isFalse h => isFalse (by simp [h])
  | .null, .bool _ | .null, .number _ | .null, .string _ | .null, .array _ | .null, .object _
  | .bool _, .null | .bool _, .number _ | .bool _, .string _ | .bool _, .array _
  | .bool _, .object _ | .number _, .null | .number _, .bool _ | .number _, .string _
  | .number _, .array _ | .number _, .object _ | .string _, .null | .string _, .bool _
  | .string _, .number _ | .string _, .array _ | .string _, .object _ | .array _, .null
  | .array _, .bool _ | .array _, .number _ | .array _, .string _ | .array _, .object _
  | .object _, .null | .object _, .bool _ | .object _, .number _ | .object _, .string _
  | .object _, .array _ => isFalse (by simp)
/-- Equality of lists of documents is decidable. -/
def decEqItems : (a b : List Json) → Decidable (a = b)
  | [], [] => isTrue rfl
  | [], _ :: _ | _ :: _, [] => isFalse (by simp)
  | x :: xs, y :: ys =>
    match decEq x y, decEqItems xs ys with
    | isTrue h, isTrue h' => isTrue (by rw [h, h'])
    | isFalse h, _ => isFalse (by simp [h])
    | _, isFalse h => isFalse (by simp [h])
/-- Equality of lists of entries is decidable. -/
def decEqEntries : (a b : List (String × Json)) → Decidable (a = b)
  | [], [] => isTrue rfl
  | [], _ :: _ | _ :: _, [] => isFalse (by simp)
  | (k, x) :: xs, (l, y) :: ys =>
    match decEq x y, decEqEntries xs ys with
    | isTrue h, isTrue h' =>
      if hk : k = l then isTrue (by rw [h, h', hk]) else isFalse (by simp [hk])
    | isFalse h, _ => isFalse (by simp [h])
    | _, isFalse h => isFalse (by simp [h])
end

instance : DecidableEq Json := decEq

mutual
/-- Every object with each key once: the last value, itself collapsed, at the place of the first
entry. -/
def collapse : Json → Json
  | .array items => .array (collapseItems items)
  | .object entries => .object (Keyed.collapse (collapseEntries entries))
  | d => d
termination_by structural d => d
/-- The items, each collapsed. -/
def collapseItems : List Json → List Json
  | [] => []
  | d :: rest => collapse d :: collapseItems rest
termination_by structural items => items
/-- The entries with each value collapsed; repeated keys are still there. -/
def collapseEntries : List (String × Json) → List (String × Json)
  | [] => []
  | (k, d) :: rest => (k, collapse d) :: collapseEntries rest
termination_by structural entries => entries
end

mutual
/-- How deep arrays and objects nest; the other documents have depth zero. -/
def depth : Json → Nat
  | .array items => depthItems items + 1
  | .object entries => depthEntries entries + 1
  | _ => 0
termination_by structural d => d
/-- The largest depth of the items. -/
def depthItems : List Json → Nat
  | [] => 0
  | d :: rest => max (depth d) (depthItems rest)
termination_by structural items => items
/-- The largest depth of the values. -/
def depthEntries : List (String × Json) → Nat
  | [] => 0
  | (_, d) :: rest => max (depth d) (depthEntries rest)
termination_by structural entries => entries
end

theorem collapseItems_eq_map (items : List Json) : collapseItems items = items.map collapse := by
  induction items with
  | nil => rfl
  | cons d rest ih => simp [collapseItems, ih]

theorem collapseEntries_eq_map (entries : List (String × Json)) :
    collapseEntries entries = entries.map fun e => (e.1, collapse e.2) := by
  induction entries with
  | nil => rfl
  | cons e rest ih => simp [collapseEntries, ih]

end Json

end DocSelect
