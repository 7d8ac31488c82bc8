import DocSelect.Proofs.TextOrder
import DocSelect.Store.Documents
import Mathlib.Data.Finmap
import Mathlib.Data.Finset.Sort
/-!
# The contents of a table of documents

A table of documents keeps its rows in the order of their keys, each key once, and text in each
row. So it stands for a finite map from keys to texts, and each operation on the table is one on
the map.

* `Contents` : a finite map from keys to the texts of documents; `Contents.keyList` are its keys in
  order, `Contents.texts` its entries in that order;
* `Table.Holds` : the table stands for the map;
* `Table.Holds.insert`, `Table.Holds.update`, `Table.Holds.delete` : **writing to the table is
  writing to the map**;
* `Table.Holds.keys_eq`, `Table.Holds.rows_eq` : **a listing of the table is a listing of the map**.
-/

namespace DocSelect

/-! ## Finite maps of texts -/

/-- The texts of documents, by key. -/
abbrev Contents := Finmap fun _ : String => String

namespace Contents

/-- The keys in increasing order. -/
def keyList (m : Contents) : List String := m.keys.sort

/-- The keys with their texts, in increasing order of the keys. -/
def texts (m : Contents) : List (String × String) :=
  m.keyList.filterMap fun k => (m.lookup k).map (k, ·)

@[simp] theorem keyList_empty : keyList ∅ = [] := by
  rw [keyList, Finmap.keys_empty, Finset.sort_empty]

/-- The keys are listed in strictly increasing order of their bytes. -/
theorem pairwise_keyList (m : Contents) :
    m.keyList.Pairwise fun k l => utf8Bytes k.toList < utf8Bytes l.toList :=
  m.keys.sortedLT_sort.pairwise.imp fun h => utf8Bytes_lt h

theorem mem_keyList {m : Contents} {k : String} : k ∈ m.keyList ↔ k ∈ m := by
  rw [keyList, Finset.mem_sort, Finmap.mem_keys]

theorem mem_texts {m : Contents} {k text : String} :
    (k, text) ∈ m.texts ↔ m.lookup k = some text := by
  rw [texts, List.mem_filterMap]
  constructor
  · rintro ⟨l, -, h⟩
    obtain ⟨text', hlookup, heq⟩ := Option.map_eq_some_iff.1 h
    obtain ⟨rfl, rfl⟩ := Prod.mk.inj heq
    exact hlookup
  · intro h
    exact ⟨k, mem_keyList.2 (Finmap.mem_of_lookup_eq_some h), by rw [h]; rfl⟩

theorem pairwise_texts (m : Contents) : m.texts.Pairwise fun e f => e.1 < f.1 := by
  refine (m.keys.sortedLT_sort.pairwise).filterMap _ ?_
  intro k l hkl e he f hf
  obtain ⟨-, -, rfl⟩ := Option.map_eq_some_iff.1 he
  obtain ⟨-, -, rfl⟩ := Option.map_eq_some_iff.1 hf
  exact hkl

end Contents

/-! ## Rows in the order of their keys -/

/-- The rows have increasing keys. -/
def Row.Increasing (rows : List Row) : Prop := rows.Pairwise fun r s => r.key < s.key

namespace Row.Increasing

variable {rows : List Row}

/-- A row with a new key is put at its place. -/
theorem insertRow (h : Increasing rows) {r : Row} (hnew : ∀ s ∈ rows, s.key ≠ r.key) :
    Increasing (insertRow r rows) := by
  induction rows with
  | nil => exact List.pairwise_singleton _ r
  | cons s rest ih =>
    obtain ⟨hs, hrest⟩ := List.pairwise_cons.1 h
    rw [List.forall_mem_cons] at hnew
    unfold DocSelect.insertRow
    split
    · next hlt =>
      have hrs := compareText_eq_lt_iff.1 hlt
      refine List.pairwise_cons.2 ⟨?_, h⟩
      exact List.forall_mem_cons.2 ⟨hrs, fun t ht => hrs.trans (hs t ht)⟩
    · next hge =>
      -- the row goes behind this one, which has a smaller key
      have hsr : s.key < r.key := by
        refine lt_of_le_of_ne (not_lt.1 fun hlt => hge ?_) hnew.1
        exact compareText_eq_lt_iff.2 hlt
      refine List.pairwise_cons.2 ⟨?_, ih hrest hnew.2⟩
      intro t ht
      rcases mem_insertRow.1 ht with rfl | ht
      · exact hsr
      · exact hs t ht

/-- Such rows are determined by what is among them. -/
theorem eq_of_mem_iff {rows' : List Row} (h : Increasing rows) (h' : Increasing rows')
    (hmem : ∀ r, r ∈ rows ↔ r ∈ rows') : rows = rows' := by
  have : Std.Irrefl fun r s : Row => r.key < s.key := ⟨fun r => lt_irrefl r.key⟩
  have : Std.Antisymm fun r s : Row => r.key < s.key := ⟨fun _ _ hrs hsr => absurd hsr hrs.asymm⟩
  exact List.Pairwise.eq_of_mem_iff h h' hmem

/-- No key stands twice, so each row shows its own. -/
theorem distinctKeys_eq (h : Increasing rows) : distinctKeys rows = rows.map Row.key := by
  induction rows with
  | nil => rfl
  | cons r rest ih =>
    obtain ⟨hr, hrest⟩ := List.pairwise_cons.1 h
    rw [distinctKeys, ih hrest]
    cases rest with
    | nil => rfl
    | cons s rest =>
      have hne : s.key ≠ r.key := (hr s List.mem_cons_self).ne'
      simp only [List.map_cons, if_neg hne]

end Row.Increasing

/-! ## Tables that stand for a map -/

/-- The row of a text. -/
def Row.ofText (k text : String) : Row := ⟨k, .text text⟩

namespace Table

/-- The table has the columns of documents, and its rows are the entries of the map in increasing
order of the keys. -/
structure Holds (t : Table) (m : Contents) : Prop where
  /-- The columns. -/
  shape : t.shape = .documents
  /-- The order. -/
  increasing : Row.Increasing t.rows
  /-- The rows. -/
  mem_iff : ∀ r, r ∈ t.rows ↔ ∃ text, m.lookup r.key = some text ∧ r.value = .text text

/-- A new table stands for the empty map. -/
theorem holds_empty (name : String) : (Table.empty name .documents).Holds ∅ where
  shape := rfl
  increasing := List.Pairwise.nil
  mem_iff r := by simp [Table.empty]

namespace Holds

variable {t : Table} {m : Contents}

/-! ### Reading -/

/-- **The rows are the entries of the map.** -/
theorem rows_eq (h : t.Holds m) : t.rows = m.texts.map fun e => Row.ofText e.1 e.2 := by
  refine h.increasing.eq_of_mem_iff ?_ fun r => ?_
  · exact m.pairwise_texts.map _ fun _ _ hlt => hlt
  · rw [h.mem_iff, List.mem_map]
    constructor
    · rintro ⟨text, hlookup, hvalue⟩
      refine ⟨(r.key, text), Contents.mem_texts.2 hlookup, ?_⟩
      rw [Row.ofText, ← hvalue]
    · rintro ⟨⟨k, text⟩, hmem, rfl⟩
      exact ⟨text, Contents.mem_texts.1 hmem, rfl⟩

/-- There is a column for the documents. -/
theorem hasValues (h : t.Holds m) : t.shape.hasValues = true := by
  rw [h.shape]
  rfl

theorem sorted_eq (h : t.Holds m) : t.sorted = t.rows := by
  rw [Table.sorted, h.shape]
  rfl

/-- **The keys are those of the map.** -/
theorem keys_eq (h : t.Holds m) : t.keys = m.keyList := by
  have hkeys : t.rows.map Row.key = m.keyList := by
    refine (List.Pairwise.map Row.key (fun _ _ hlt => hlt) h.increasing).sortedLT.eq_of_mem_iff
      m.keys.sortedLT_sort fun k => ?_
    show _ ↔ k ∈ m.keyList
    rw [List.mem_map, Contents.mem_keyList, Finmap.mem_iff]
    constructor
    · rintro ⟨r, hr, rfl⟩
      obtain ⟨text, hlookup, -⟩ := (h.mem_iff r).1 hr
      exact ⟨text, hlookup⟩
    · rintro ⟨text, hlookup⟩
      exact ⟨.ofText k text, (h.mem_iff _).2 ⟨text, hlookup, rfl⟩, rfl⟩
  rw [keys, h.sorted_eq, h.increasing.distinctKeys_eq, hkeys]

theorem contains_eq (h : t.Holds m) (k : String) : t.contains k = decide (k ∈ m) := by
  rw [Bool.eq_iff_iff, contains, List.any_eq_true, decide_eq_true_iff, Finmap.mem_iff]
  constructor
  · rintro ⟨r, hr, hk⟩
    obtain rfl := of_decide_eq_true hk
    obtain ⟨text, hlookup, -⟩ := (h.mem_iff r).1 hr
    exact ⟨text, hlookup⟩
  · rintro ⟨text, hlookup⟩
    exact ⟨.ofText k text, (h.mem_iff _).2 ⟨text, hlookup, rfl⟩, decide_eq_true rfl⟩

/-- A key has the row of its text, or none. -/
theorem withKey_eq (h : t.Holds m) (k : String) :
    t.withKey k = ((m.lookup k).map (Row.ofText k)).toList := by
  refine (h.increasing.filter _).eq_of_mem_iff ?_ fun r => ?_
  · cases m.lookup k with
    | none => exact List.Pairwise.nil
    | some text => exact List.pairwise_singleton _ _
  · rw [List.mem_filter, h.mem_iff, Option.mem_toList, Option.map_eq_some_iff]
    constructor
    · rintro ⟨⟨text, hlookup, hvalue⟩, hk⟩
      obtain rfl := of_decide_eq_true hk
      exact ⟨text, hlookup, by rw [Row.ofText, ← hvalue]⟩
    · rintro ⟨text, hlookup, rfl⟩
      exact ⟨⟨text, hlookup, rfl⟩, decide_eq_true rfl⟩

/-! ### Writing -/

/-- A new key is added to the map. -/
theorem insert (h : t.Holds m) {k : String} (hk : k ∉ m) (text : String) :
    ∃ u, t.insert (.ofText k text) = .ok u ∧ u.name = t.name ∧ u.Holds (m.insert k text) := by
  refine ⟨{ t with rows := insertRow (.ofText k text) t.rows }, ?_, rfl, h.shape, ?_, fun r => ?_⟩
  · have hcontains : t.contains k = false := by rw [h.contains_eq, decide_eq_false hk]
    simp [Table.insert, h.shape, TableShape.allows, TableShape.hasUniqueKeys, Row.ofText, hcontains]
  · refine h.increasing.insertRow fun s hs heq => hk ?_
    obtain ⟨text', hlookup, -⟩ := (h.mem_iff s).1 hs
    rw [heq] at hlookup
    exact Finmap.mem_of_lookup_eq_some hlookup
  · rw [mem_insertRow, h.mem_iff]
    by_cases hr : r.key = k
    · have hnone : m.lookup k = none := Finmap.lookup_eq_none.2 hk
      obtain ⟨key, value⟩ := r
      obtain rfl : key = k := hr
      simp [Row.ofText, hnone]
    · have hne : r ≠ .ofText k text := fun heq => hr (congrArg Row.key heq)
      rw [Finmap.lookup_insert_of_ne m hr]
      simp [hne]

/-- The rows in which one key has another text; any text is allowed. -/
theorem update_eq (h : t.Holds m) (k text : String) :
    t.update k (.text text) =
      .ok { t with rows := t.rows.map fun r => if r.key = k then .ofText r.key text else r } := by
  have hallows : t.shape.allows (.text text) = true := by
    rw [h.shape]
    rfl
  rw [Table.update, if_neg (by simp [hallows])]
  rfl

/-- Where a key is not there, overwriting it changes nothing. -/
theorem update_of_notMem (h : t.Holds m) {k : String} (hk : k ∉ m) (text : String) :
    t.update k (.text text) = .ok t := by
  have hrows : (t.rows.map fun r => if r.key = k then .ofText r.key text else r) = t.rows := by
    refine (List.map_congr_left fun r hr => if_neg ?_).trans (List.map_id _)
    rintro rfl
    obtain ⟨text', hlookup, -⟩ := (h.mem_iff r).1 hr
    exact hk (Finmap.mem_of_lookup_eq_some hlookup)
  rw [h.update_eq, hrows]

/-- A key that is there gets another text. -/
theorem update_of_mem (h : t.Holds m) {k : String} (hk : k ∈ m) (text : String) :
    ∃ u, t.update k (.text text) = .ok u ∧ u.name = t.name ∧ u.Holds (m.insert k text) := by
  refine ⟨_, h.update_eq k text, rfl, h.shape, ?_, fun r => ?_⟩
  · refine h.increasing.map _ fun r s hrs => ?_
    split_ifs <;> exact hrs
  · rw [List.mem_map]
    constructor
    · rintro ⟨s, hs, rfl⟩
      by_cases heq : s.key = k
      · rw [if_pos heq, heq]
        exact ⟨text, Finmap.lookup_insert m, rfl⟩
      · obtain ⟨text', hlookup, hvalue⟩ := (h.mem_iff s).1 hs
        rw [if_neg heq, Finmap.lookup_insert_of_ne m heq]
        exact ⟨text', hlookup, hvalue⟩
    · rintro ⟨text', hlookup, hvalue⟩
      by_cases heq : r.key = k
      · -- the row that had the key before
        obtain ⟨old, hold⟩ := Finmap.mem_iff.1 hk
        rw [heq, Finmap.lookup_insert] at hlookup
        refine ⟨.ofText k old, (h.mem_iff _).2 ⟨old, hold, rfl⟩, (if_pos rfl).trans ?_⟩
        show Row.ofText k text = r
        rw [Option.some.inj hlookup, Row.ofText, ← heq, ← hvalue]
      · rw [Finmap.lookup_insert_of_ne m heq] at hlookup
        exact ⟨r, (h.mem_iff r).2 ⟨text', hlookup, hvalue⟩, if_neg heq⟩

/-- A key is removed from the map. -/
theorem delete (h : t.Holds m) (k : String) : (t.delete k).Holds (m.erase k) where
  shape := h.shape
  increasing := h.increasing.filter _
  mem_iff r := by
    rw [Table.delete, List.mem_filter, h.mem_iff]
    by_cases hk : r.key = k
    · rw [hk, Finmap.lookup_erase]
      simp
    · rw [Finmap.lookup_erase_ne hk]
      simp [hk]

end Holds

end Table

end DocSelect
