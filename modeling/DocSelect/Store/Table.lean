import DocSelect.Sql.Condition
import DocSelect.Store.Cell
/-!
# Tables

A table has a name and rows. Most tables have unique keys and keep their rows in the order of the
keys; the shape of a table says what is different about it.

* `Table.insert`, `Table.update` and `Table.delete` change rows.
* `Table.sorted` are the rows in the order of their keys, `Table.keys` the keys.
-/

namespace DocSelect

/-- What the columns of a table are. -/
inductive TableShape
  /-- Unique keys and documents. -/
  | documents
  /-- Keys that may repeat, and documents. -/
  | unkeyed
  /-- Unique keys and documents of at most ten characters. -/
  | short
  /-- Unique keys and nothing else. -/
  | keysOnly
  /-- Unique keys and documents in a column that leaves numbers as they are. -/
  | untyped
  deriving DecidableEq

namespace TableShape

/-- Whether no key occurs twice. -/
def hasUniqueKeys : TableShape → Bool
  | unkeyed => false
  | _ => true

/-- Whether there is a column for the documents. -/
def hasValues : TableShape → Bool
  | keysOnly => false
  | _ => true

/-- The names of the columns. -/
def columns (s : TableShape) : List String :=
  if s.hasValues then [keyColumn, valueColumn] else [keyColumn]

/-- There is a column for the keys. -/
theorem key_subset_columns (s : TableShape) : [keyColumn] ⊆ s.columns := by
  cases s <;> decide

/-- If there is a column for the documents, a statement may ask for both columns, in any order. -/
theorem subset_columns {s : TableShape} (h : s.hasValues = true) {asked : List String}
    (hasked : asked ⊆ [keyColumn, valueColumn]) : asked ⊆ s.columns := by
  rw [columns, if_pos h]
  exact hasked

/-- What a value becomes when it is put into the column of the documents. -/
def stored : TableShape → Cell → Cell
  | untyped, c => c
  | _, c => c.asText

/-- Whether a cell meets the condition of the table. -/
def allows : TableShape → Cell → Bool
  | short, c => match c.length? with
    | some n => n ≤ 10
    | none => true
  | _, _ => true

/-- The condition of the table in words. -/
def condition : String := "length(value) <= 10"

end TableShape

/-- A table. -/
structure Table where
  /-- The name as it was first spelled. -/
  name : String
  /-- The columns. -/
  shape : TableShape
  /-- The rows: in the order of their keys if these are unique, in the order of their insertion
  otherwise. -/
  rows : List Row

/-- Puts a row before the first one with a larger key. -/
def insertRow (r : Row) : List Row → List Row
  | [] => [r]
  | s :: rest => if compareText r.key s.key = .lt then r :: s :: rest else s :: insertRow r rest

/-- A row that is put in is there with all the others. -/
@[simp] theorem mem_insertRow {r x : Row} {rows : List Row} :
    x ∈ insertRow r rows ↔ x = r ∨ x ∈ rows := by
  induction rows with
  | nil => simp [insertRow]
  | cons s rest ih =>
    unfold insertRow
    split
    · simp
    · simp only [List.mem_cons, ih]
      constructor
      · rintro (h | h | h) <;> simp [h]
      · rintro (h | h | h) <;> simp [h]

/-- Rows in the order of their keys; rows with one key keep their order. -/
def sortRows (rows : List Row) : List Row := rows.foldl (fun acc r => insertRow r acc) []

/-- Sorting neither adds nor loses a row. -/
@[simp] theorem mem_sortRows {x : Row} {rows : List Row} : x ∈ sortRows rows ↔ x ∈ rows := by
  have general : ∀ (rows acc : List Row),
      x ∈ rows.foldl (fun acc r => insertRow r acc) acc ↔ x ∈ acc ∨ x ∈ rows := by
    intro rows
    induction rows with
    | nil => simp
    | cons r rest ih =>
      intro acc
      simp only [List.foldl_cons, ih, mem_insertRow, List.mem_cons]
      constructor
      · rintro ((h | h) | h) <;> simp [h]
      · rintro (h | h | h) <;> simp [h]
  simpa [sortRows] using general rows []

/-- Each key once, where equal keys stand together. -/
def distinctKeys : List Row → List String
  | [] => []
  | r :: rest =>
    match distinctKeys rest with
    | k :: ks => if k = r.key then k :: ks else r.key :: k :: ks
    | [] => [r.key]

namespace Table

/-- A table without rows. -/
def empty (name : String) (shape : TableShape) : Table := ⟨name, shape, []⟩

/-- The rows in the order of their keys. -/
def sorted (t : Table) : List Row := if t.shape.hasUniqueKeys then t.rows else sortRows t.rows

/-- The rows in the order of their keys are the rows. -/
theorem mem_sorted {t : Table} {r : Row} : r ∈ t.sorted ↔ r ∈ t.rows := by
  unfold sorted
  split
  · exact Iff.rfl
  · exact mem_sortRows

/-- The keys in order, each once. -/
def keys (t : Table) : List String := distinctKeys t.sorted

/-- The rows with a key. -/
def withKey (t : Table) (key : String) : List Row := t.rows.filter fun r => r.key = key

/-- Whether a key is there. -/
def contains (t : Table) (key : String) : Bool := t.rows.any fun r => r.key = key

/-- The table with another row. -/
def insert (t : Table) (r : Row) : Except EngineError Table :=
  if !t.shape.allows r.value then .error (.checkFailed TableShape.condition)
  else if t.shape.hasUniqueKeys then
    if t.contains r.key then .error (.duplicateKey t.name)
    else .ok { t with rows := insertRow r t.rows }
  else .ok { t with rows := t.rows ++ [r] }

/-- The table in which all rows of a key have the cell. -/
def update (t : Table) (key : String) (c : Cell) : Except EngineError Table :=
  if t.contains key ∧ !t.shape.allows c then .error (.checkFailed TableShape.condition)
  else .ok { t with rows := t.rows.map fun r => if r.key = key then { r with value := c } else r }

/-- The table without the rows of a key. -/
def delete (t : Table) (key : String) : Table :=
  { t with rows := t.rows.filter fun r => r.key ≠ key }

/-- Deleting a key removes it and no other. -/
@[simp] theorem contains_delete (t : Table) (key other : String) :
    (t.delete key).contains other = (other != key && t.contains other) := by
  rw [Bool.eq_iff_iff]
  simp only [contains, delete, List.any_filter, List.any_eq_true, Bool.and_eq_true,
    decide_eq_true_eq, bne_iff_ne, ne_eq]
  constructor
  · rintro ⟨r, hr, hne, rfl⟩
    exact ⟨hne, r, hr, rfl⟩
  · rintro ⟨hne, r, hr, rfl⟩
    exact ⟨r, hr, hne, rfl⟩

/-- The rows that a condition keeps, in the order of their keys. -/
def keep (t : Table) (e : Expr) : Except EngineError (List Row) := do
  let rows ← e.keep Row.column t.rows
  .ok (if t.shape.hasUniqueKeys then rows else sortRows rows)

end Table

end DocSelect
