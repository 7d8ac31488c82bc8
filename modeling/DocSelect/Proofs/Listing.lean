import DocSelect.Proofs.CorruptRows
import DocSelect.Proofs.StoreRefinement
/-!
# Listings and single reads

All documents of a table are read in one go, from the rows in the order of their keys; one document
is read from the rows of its key. Where no key has two rows both give the same, whatever the rows
hold: documents, texts that are none, numbers, bytes or nothing at all. A number that is put into a
column of texts is there as its text; in a column that leaves it as it is, it is no text and so no
document.

* `Table.Distinct` : no key has two rows, and unique keys are in order;
* `Table.Distinct.insert`, `Table.Distinct.update`, `Table.Distinct.delete` : writing keeps it so;
* `Table.exists_distinct` : any rows with distinct keys can be put in one after the other, and make
  such a table;
* `Table.Distinct.increasing_sorted` : the rows in the order of their keys have increasing keys;
* `decodeRows_eq_ok_iff`, `decodeRows_eq_error_iff` : reading rows back, row by row;
* `Database.findAll_eq_ok_iff`, `Database.findAll_eq_error_iff` : when a listing succeeds, and how
  it fails, in terms of reads;
* `Database.findAll_agrees` : **a listing agrees with the reads of the single keys**, in its
  documents and in its failure.
-/

namespace DocSelect

/-! ## Tables in which no key has two rows -/

/-- Putting rows with new keys in one after the other leaves the keys increasing. -/
theorem Row.Increasing.foldl_insertRow {rows acc : List Row} (hacc : Increasing acc)
    (hrows : (rows.map Row.key).Nodup) (hnew : ∀ r ∈ rows, ∀ s ∈ acc, s.key ≠ r.key) :
    Increasing (rows.foldl (fun acc r => DocSelect.insertRow r acc) acc) := by
  induction rows generalizing acc with
  | nil => exact hacc
  | cons r rest ih =>
    rw [List.map_cons, List.nodup_cons] at hrows
    rw [List.forall_mem_cons] at hnew
    refine ih (hacc.insertRow hnew.1) hrows.2 fun q hq s hs => ?_
    rcases mem_insertRow.1 hs with rfl | hs
    · intro heq
      rw [heq] at hrows
      exact hrows.1 (List.mem_map_of_mem hq)
    · exact hnew.2 q hq s hs

theorem Row.Increasing.pairwise_keys {rows : List Row} (h : Increasing rows) :
    (rows.map Row.key).Pairwise (· < ·) :=
  List.Pairwise.map Row.key (fun _ _ hlt => hlt) h

/-- Increasing keys are distinct. -/
theorem Row.Increasing.nodup {rows : List Row} (h : Increasing rows) :
    (rows.map Row.key).Nodup :=
  h.pairwise_keys.imp fun hlt => hlt.ne

theorem increasing_sortRows {rows : List Row} (h : (rows.map Row.key).Nodup) :
    Row.Increasing (sortRows rows) := by
  refine Row.Increasing.foldl_insertRow List.Pairwise.nil h ?_
  intro r _ s hs
  cases hs

namespace Table

/-- No key has two rows; if the columns make keys unique, the rows are in the order of the keys. -/
structure Distinct (t : Table) : Prop where
  /-- The keys. -/
  nodup : (t.rows.map Row.key).Nodup
  /-- The order. -/
  increasing : t.shape.hasUniqueKeys = true → Row.Increasing t.rows

/-- A row with a new key that the table allows can be put in. -/
theorem exists_insert {t : Table} {r : Row} (hkey : r.key ∉ t.rows.map Row.key)
    (hallowed : t.shape.allows r.value = true) :
    ∃ u, t.insert r = .ok u ∧ u.shape = t.shape ∧ ∀ q, q ∈ u.rows ↔ q = r ∨ q ∈ t.rows := by
  have hcontains : t.contains r.key = false := by
    rw [contains, List.any_eq_false]
    intro q hq heq
    rw [← of_decide_eq_true heq] at hkey
    exact hkey (List.mem_map_of_mem hq)
  cases hunique : t.shape.hasUniqueKeys with
  | false =>
    refine ⟨{ t with rows := t.rows ++ [r] }, ?_, rfl, fun q => ?_⟩
    · simp [Table.insert, hallowed, hunique]
    · simp [or_comm]
  | true =>
    refine ⟨{ t with rows := insertRow r t.rows }, ?_, rfl, fun q => mem_insertRow⟩
    simp [Table.insert, hallowed, hunique, hcontains]

theorem distinct_empty (name : String) (shape : TableShape) :
    (Table.empty name shape).Distinct where
  nodup := List.nodup_nil
  increasing _ := List.Pairwise.nil

namespace Distinct

variable {t u : Table}

/-! ### Writing -/

/-- A row with a new key is added to the others. -/
theorem insert (h : t.Distinct) {r : Row} (hkey : r.key ∉ t.rows.map Row.key)
    (hu : t.insert r = .ok u) : u.Distinct := by
  unfold Table.insert at hu
  split_ifs at hu with _ hunique
  · cases hu
    have hincreasing : Row.Increasing (insertRow r t.rows) :=
      (h.increasing hunique).insertRow fun s hs heq => hkey (heq ▸ List.mem_map_of_mem hs)
    exact ⟨hincreasing.nodup, fun _ => hincreasing⟩
  · cases hu
    refine ⟨?_, fun hshape => absurd hshape hunique⟩
    rw [List.map_append, List.map_singleton]
    exact h.nodup.append (List.nodup_singleton _) (List.disjoint_singleton.2 hkey)

/-- Rows with new keys that the table allows can be put in one after the other, in any order. -/
theorem exists_foldlM_insert (h : t.Distinct) {rows : List Row}
    (hrows : (rows.map Row.key).Nodup) (hnew : ∀ r ∈ rows, r.key ∉ t.rows.map Row.key)
    (hallowed : ∀ r ∈ rows, t.shape.allows r.value = true) :
    ∃ u, rows.foldlM Table.insert t = .ok u ∧ u.Distinct ∧
      ∀ r, r ∈ u.rows ↔ r ∈ t.rows ∨ r ∈ rows := by
  induction rows generalizing t with
  | nil => exact ⟨t, rfl, h, fun r => by simp⟩
  | cons r rest ih =>
    rw [List.map_cons, List.nodup_cons] at hrows
    rw [List.forall_mem_cons] at hnew hallowed
    obtain ⟨u, hu, hshape, hmem⟩ := exists_insert hnew.1 hallowed.1
    have hnew' : ∀ q ∈ rest, q.key ∉ u.rows.map Row.key := by
      intro q hq hkey
      obtain ⟨s, hs, heq⟩ := List.mem_map.1 hkey
      rcases (hmem s).1 hs with rfl | hs
      · rw [heq] at hrows
        exact hrows.1 (List.mem_map_of_mem hq)
      · exact hnew.2 q hq (heq ▸ List.mem_map_of_mem hs)
    rw [← hshape] at hallowed
    obtain ⟨v, hv, hdistinct, hall⟩ := ih (h.insert hnew.1 hu) hrows.2 hnew' hallowed.2
    refine ⟨v, ?_, hdistinct, fun q => ?_⟩
    · rw [List.foldlM_cons, hu]
      exact hv
    · rw [hall, hmem, List.mem_cons, or_assoc, or_left_comm]

/-- Overwriting leaves the keys as they are. -/
theorem update (h : t.Distinct) {key : String} {c : Cell} (hu : t.update key c = .ok u) :
    u.Distinct := by
  have hkey (r : Row) : (if r.key = key then { r with value := c } else r).key = r.key := by
    split_ifs <;> rfl
  unfold Table.update at hu
  split_ifs at hu
  cases hu
  refine ⟨?_, fun hunique => ?_⟩
  · have hkeys : Row.key ∘ (fun r => if r.key = key then { r with value := c } else r) = Row.key :=
      funext hkey
    rw [List.map_map, hkeys]
    exact h.nodup
  · refine (h.increasing hunique).map _ fun r s hrs => ?_
    rw [hkey, hkey]
    exact hrs

/-- Deleting leaves some of the rows. -/
theorem delete (h : t.Distinct) (key : String) : (t.delete key).Distinct where
  nodup := h.nodup.sublist ((List.filter_sublist).map Row.key)
  increasing hunique := (h.increasing hunique).filter _

/-! ### Reading -/

variable (h : t.Distinct)
include h

/-- The rows in the order of their keys have increasing keys. -/
theorem increasing_sorted : Row.Increasing t.sorted := by
  unfold sorted
  split_ifs with hunique
  · exact h.increasing hunique
  · exact increasing_sortRows h.nodup

/-- A key that is there has one row. -/
theorem withKey_of_mem {r : Row} (hr : r ∈ t.rows) : t.withKey r.key = [r] := by
  have honly : ∀ s ∈ t.rows, decide (s.key = r.key) = (s == r) := by
    intro s hs
    rw [Bool.eq_iff_iff, decide_eq_true_iff, beq_iff_eq]
    exact ⟨List.inj_on_of_nodup_map h.nodup hs hr, congrArg Row.key⟩
  rw [withKey, List.filter_congr honly, List.filter_beq,
    List.count_eq_one_of_mem (List.Nodup.of_map _ h.nodup) hr, List.replicate_one]

end Distinct

/-- Any rows with distinct keys and cells that the columns allow are those of such a table. -/
theorem exists_distinct (name : String) (shape : TableShape) {rows : List Row}
    (hrows : (rows.map Row.key).Nodup) (hallowed : ∀ r ∈ rows, shape.allows r.value = true) :
    ∃ t, rows.foldlM Table.insert (.empty name shape) = .ok t ∧ t.Distinct ∧
      ∀ r, r ∈ t.rows ↔ r ∈ rows := by
  obtain ⟨t, ht, hdistinct, hmem⟩ := (distinct_empty name shape).exists_foldlM_insert hrows
    (fun r _ => List.not_mem_nil) hallowed
  refine ⟨t, ht, hdistinct, fun r => (hmem r).trans ?_⟩
  simp [Table.empty]

theorem withKey_eq_nil {t : Table} {key : String} (h : key ∉ t.rows.map Row.key) :
    t.withKey key = [] := by
  refine List.filter_eq_nil_iff.2 fun r hr hkey => h ?_
  rw [← of_decide_eq_true hkey]
  exact List.mem_map_of_mem hr

end Table

/-! ## Reading rows back, row by row -/

section

variable {rows : List Row}

theorem Row.decode_eq_error {r : Row} {e : StoreError} (h : r.decode = .error e) :
    ∃ reason, e = .corruptRecord r.key reason := by
  unfold decode at h
  split at h
  · cases h
  · next reason _ => exact ⟨reason, (Except.error.inj h).symm⟩

theorem Row.unreadable_of_decode_eq_error {r : Row} {e : StoreError} (h : r.decode = .error e) :
    r.Unreadable := by
  intro d hd
  rw [h] at hd
  cases hd

/-- The first row has the smallest key. -/
theorem Row.IsFirst.head {Kind : Row → Prop} {r : Row} (hrows : Increasing (r :: rows))
    (hr : Kind r) : IsFirst Kind (r :: rows) r := by
  refine ⟨List.mem_cons_self, hr, fun s hs _ => ?_⟩
  rcases List.mem_cons.1 hs with rfl | hs
  · exact le_rfl
  · exact ((List.pairwise_cons.1 hrows).1 s hs).le

/-- A row before the others that is not of the kind changes nothing. -/
theorem Row.IsFirst.cons {Kind : Row → Prop} {r s : Row} (h : IsFirst Kind rows r)
    (hs : ¬ Kind s) : IsFirst Kind (s :: rows) r := by
  refine ⟨List.mem_cons_of_mem s h.mem, h.kind, fun q hq hkind => ?_⟩
  rcases List.mem_cons.1 hq with rfl | hq
  · exact absurd hkind hs
  · exact h.le q hq hkind

/-- All rows are read back if each of them is. -/
theorem decodeRows_eq_ok_iff {ds : List Json} :
    decodeRows rows = .ok ds ↔ List.Forall₂ (fun r d => r.decode = .ok d) rows ds := by
  induction rows generalizing ds with
  | nil =>
    rw [decodeRows, List.forall₂_nil_left_iff, Except.ok.injEq]
    exact eq_comm
  | cons r rest ih =>
    rw [decodeRows, List.forall₂_cons_left_iff, bind_eq_ok]
    constructor
    · rintro ⟨d, hd, h⟩
      obtain ⟨ds', hds', h⟩ := bind_eq_ok.1 h
      cases h
      exact ⟨d, ds', hd, ih.1 hds', rfl⟩
    · rintro ⟨d, ds', hd, hds', rfl⟩
      exact ⟨d, hd, bind_eq_ok.2 ⟨ds', ih.2 hds', rfl⟩⟩

/-- The failure is that of the first row that is not read back. -/
theorem decodeRows_eq_error_iff (hrows : Row.Increasing rows) {e : StoreError} :
    decodeRows rows = .error e ↔ ∃ r, Row.IsFirst Row.Unreadable rows r ∧ r.decode = .error e := by
  induction rows with
  | nil =>
    refine ⟨fun h => (nomatch h), ?_⟩
    rintro ⟨r, hr, -⟩
    cases hr.mem
  | cons r rest ih =>
    have hrest := (List.pairwise_cons.1 hrows).2
    rw [decodeRows, bind_eq_error]
    constructor
    · rintro (hr | ⟨d, hd, h⟩)
      · exact ⟨r, .head hrows (Row.unreadable_of_decode_eq_error hr), hr⟩
      · rcases bind_eq_error.1 h with h | ⟨ds, -, h⟩
        · obtain ⟨q, hq, he⟩ := (ih hrest).1 h
          exact ⟨q, hq.cons fun hr => hr d hd, he⟩
        · cases h
    · rintro ⟨q, hq, he⟩
      rcases hq.cons_cases hrows with rfl | ⟨hr, hq⟩
      · exact .inl he
      · obtain ⟨d, hd⟩ : ∃ d, r.decode = .ok d := by
          simpa [Row.Unreadable] using hr
        exact .inr ⟨d, hd, bind_eq_error.2 (.inl ((ih hrest).2 ⟨q, hq, he⟩))⟩

end

/-! ## Results and lists -/

theorem map_some_eq_ok {ε α : Type} {x : Except ε α} {a : α} :
    x.map some = .ok (some a) ↔ x = .ok a := by
  cases x <;> simp [Except.map]

theorem map_some_eq_error {ε α : Type} {x : Except ε α} {e : ε} :
    x.map some = .error e ↔ x = .error e := by
  cases x <;> simp [Except.map]

theorem forall₂_congr_left {α β : Type} {R S : α → β → Prop} {l : List α} {m : List β}
    (h : ∀ a ∈ l, ∀ b, R a b ↔ S a b) : List.Forall₂ R l m ↔ List.Forall₂ S l m := by
  induction l generalizing m with
  | nil => rw [List.forall₂_nil_left_iff, List.forall₂_nil_left_iff]
  | cons a l ih =>
    rw [List.forall_mem_cons] at h
    rw [List.forall₂_cons_left_iff, List.forall₂_cons_left_iff]
    simp only [h.1, ih h.2]

/-! ## All keys, and each of them -/

namespace Database

variable {db : Database} {name : TableName} {t : Table}

section

variable (htable : db.table? name.text = some t) (hfree : db.isLocked = false)
include htable hfree

theorem keys_eq_sorted (ht : t.Distinct) :
    db.keys name none = .ok (t.sorted.map Row.key) := by
  rw [keys_eq_keys htable hfree, Table.keys, ht.increasing_sorted.distinctKeys_eq]

variable (hvalues : t.shape.hasValues = true)
include hvalues

theorem get_of_notMem {key : String} (hkey : key ∉ t.sorted.map Row.key) :
    db.get name key = .ok none := by
  have hnone : t.withKey key = [] := by
    refine Table.withKey_eq_nil fun hmem => hkey ?_
    obtain ⟨r, hr, rfl⟩ := List.mem_map.1 hmem
    exact List.mem_map_of_mem (Table.mem_sorted.2 hr)
  rw [get_eq_withKey htable hfree hvalues, hnone]

variable (ht : t.Distinct)
include ht

/-- What is read for a key that is there is the document of its row. -/
theorem get_of_mem {r : Row} (hr : r ∈ t.sorted) : db.get name r.key = r.decode.map some := by
  rw [get_eq_withKey htable hfree hvalues, ht.withKey_of_mem (Table.mem_sorted.1 hr)]

/-- A read that fails is that of a row. -/
theorem get_eq_error_iff {key : String} {e : StoreError} :
    db.get name key = .error e ↔ ∃ r ∈ t.sorted, r.key = key ∧ r.decode = .error e := by
  constructor
  · intro h
    by_cases hkey : key ∈ t.sorted.map Row.key
    · obtain ⟨r, hr, rfl⟩ := List.mem_map.1 hkey
      rw [get_of_mem htable hfree hvalues ht hr] at h
      exact ⟨r, hr, rfl, map_some_eq_error.1 h⟩
    · rw [get_of_notMem htable hfree hvalues hkey] at h
      cases h
  · rintro ⟨r, hr, rfl, h⟩
    rw [get_of_mem htable hfree hvalues ht hr]
    exact map_some_eq_error.2 h

/-- All documents are listed if each key is read. -/
theorem findAll_eq_ok_iff {ds : List Json} :
    db.findAll name = .ok ds ↔
      List.Forall₂ (fun k d => db.get name k = .ok (some d)) (t.sorted.map Row.key) ds := by
  rw [findAll_eq_decodeRows htable hfree hvalues, decodeRows_eq_ok_iff, List.forall₂_map_left_iff]
  refine forall₂_congr_left fun r hr d => ?_
  rw [get_of_mem htable hfree hvalues ht hr, map_some_eq_ok]

/-- The listing fails as the read of the smallest key that is not read. -/
theorem findAll_eq_error_iff {e : StoreError} :
    db.findAll name = .error e ↔
      ∃ k, db.get name k = .error e ∧ ∀ l e', db.get name l = .error e' → k ≤ l := by
  simp only [findAll_eq_decodeRows htable hfree hvalues,
    decodeRows_eq_error_iff ht.increasing_sorted, get_eq_error_iff htable hfree hvalues ht]
  constructor
  · rintro ⟨r, hr, he⟩
    refine ⟨r.key, ⟨r, hr.mem, rfl, he⟩, ?_⟩
    rintro l e' ⟨s, hs, rfl, he'⟩
    exact hr.le s hs (Row.unreadable_of_decode_eq_error he')
  · rintro ⟨k, ⟨r, hr, rfl, he⟩, hle⟩
    refine ⟨r, ⟨hr, Row.unreadable_of_decode_eq_error he, fun s hs hkind => ?_⟩, he⟩
    obtain ⟨reason, he'⟩ := Row.decode_of_unreadable hkind
    exact hle s.key _ ⟨s, hs, rfl, he'⟩

end

/-- **A listing agrees with the reads of the single keys.** In a table in which no key has two
rows, whatever the rows hold: the keys are listed in increasing order, no other key has a document,
and the read of a key that fails names the key as corrupt. All documents are listed if and only if
each key is read with a document, and then they are those documents in the order of the keys.
Otherwise the listing fails as the read of the smallest key that is not read. -/
theorem findAll_agrees (htable : db.table? name.text = some t) (hvalues : t.shape.hasValues = true)
    (ht : t.Distinct) (hfree : db.isLocked = false) :
    ∃ ks, db.keys name none = .ok ks ∧ ks.Pairwise (· < ·) ∧
      (∀ k, k ∉ ks → db.get name k = .ok none) ∧
      (∀ k e, db.get name k = .error e → ∃ reason, e = .corruptRecord k reason) ∧
      ((∃ ds, db.findAll name = .ok ds) ↔ ∀ k ∈ ks, ∃ d, db.get name k = .ok (some d)) ∧
      (∀ ds, db.findAll name = .ok ds ↔
        List.Forall₂ (fun k d => db.get name k = .ok (some d)) ks ds) ∧
      (∀ e, db.findAll name = .error e ↔
        ∃ k, db.get name k = .error e ∧ ∀ l e', db.get name l = .error e' → k ≤ l) := by
  refine ⟨t.sorted.map Row.key, keys_eq_sorted htable hfree ht, ht.increasing_sorted.pairwise_keys,
    fun k hk => get_of_notMem htable hfree hvalues hk, fun k e hk => ?_, ?_,
    fun ds => findAll_eq_ok_iff htable hfree hvalues ht,
    fun e => findAll_eq_error_iff htable hfree hvalues ht⟩
  · obtain ⟨r, -, rfl, he⟩ := (get_eq_error_iff htable hfree hvalues ht).1 hk
    exact Row.decode_eq_error he
  · simp only [findAll_eq_ok_iff htable hfree hvalues ht]
    constructor
    · rintro ⟨ds, hds⟩ k hk
      obtain ⟨d, -, hd⟩ := exists_of_mem_forall₂ hds.flip hk
      exact ⟨d, hd⟩
    · exact exists_forall₂

/-- A column that leaves numbers as they are has a document, two numbers, nothing, bytes and a text
that is no document. The listing fails as the read of the smallest key that is not read. A table
where keys may repeat has two rows out of order; the number that was put in there is a text, and the
listing has both documents in order. -/
theorem findAll_agrees_rows :
    findAll ⟨default, true, [⟨"docs", .untyped, [⟨"a", .text "true"⟩,
        ⟨"b", .real (.infinite false)⟩, ⟨"c", .integer 42⟩, ⟨"d", .null⟩, ⟨"e", .blob [255]⟩,
        ⟨"f", .text "\x7boops"⟩]⟩], false⟩ ⟨"docs", by decide⟩ =
      .error (.corruptRecord "b" "expected TEXT column, got Real") ∧
    findAll ⟨default, true, [⟨"docs", .unkeyed, [⟨"b", (Cell.integer 42).asText⟩,
        ⟨"a", .text "true"⟩]⟩], false⟩ ⟨"docs", by decide⟩ =
      .ok [.bool true, .number (.whole ⟨42, by decide, by decide⟩)] := by
  constructor
  · let rows : List Row := [⟨"a", .text "true"⟩, ⟨"b", .real (.infinite false)⟩,
      ⟨"c", .integer 42⟩, ⟨"d", .null⟩, ⟨"e", .blob [255]⟩, ⟨"f", .text "\x7boops"⟩]
    let db : Database := ⟨default, true, [⟨"docs", .untyped, rows⟩], false⟩
    have hrows : (Table.mk "docs" .untyped rows).Distinct := by
      refine ⟨by decide, fun _ => ?_⟩
      have hsort : sortRows rows = rows := by decide +kernel
      have hincreasing : Row.Increasing (sortRows rows) := increasing_sortRows (by decide)
      rwa [hsort] at hincreasing
    obtain ⟨ks, hks, -, habsent, -, -, -, herror⟩ := @findAll_agrees db ⟨"docs", by decide⟩ _
      (List.find?_cons_of_pos (by decide)) rfl hrows rfl
    have hkeys : ks = ["a", "b", "c", "d", "e", "f"] := by
      have h : db.keys ⟨"docs", by decide⟩ none = .ok ["a", "b", "c", "d", "e", "f"] := by
        decide +kernel
      exact Except.ok.inj (hks.symm.trans h)
    refine (herror _).2 ⟨"b", by decide +kernel, fun l e' hl => ?_⟩
    by_contra hlt
    -- only one key is smaller, and it is read
    have hread : ∀ k ∈ ks, ¬ "b" ≤ k → ∃ d, db.get ⟨"docs", by decide⟩ k = .ok d := by
      rw [hkeys]
      simp only [List.forall_mem_cons]
      refine ⟨fun _ => ⟨some (.bool true), by decide +kernel⟩, ?_, ?_, ?_, ?_, ?_,
        fun k hk => (nomatch hk)⟩ <;> exact fun h => absurd (by decide) h
    obtain ⟨d, hd⟩ : ∃ d, db.get ⟨"docs", by decide⟩ l = .ok d := by
      by_cases hl : l ∈ ks
      · exact hread l hl hlt
      · exact ⟨none, habsent l hl⟩
    rw [hd] at hl
    cases hl
  · let rows : List Row := [⟨"b", (Cell.integer 42).asText⟩, ⟨"a", .text "true"⟩]
    let db : Database := ⟨default, true, [⟨"docs", .unkeyed, rows⟩], false⟩
    have hrows : (Table.mk "docs" .unkeyed rows).Distinct :=
      ⟨by decide, fun hunique => (nomatch hunique)⟩
    obtain ⟨ks, hks, -, -, -, -, hok, -⟩ := @findAll_agrees db ⟨"docs", by decide⟩ _
      (List.find?_cons_of_pos (by decide)) rfl hrows rfl
    have hkeys : ks = ["a", "b"] := by
      have h : db.keys ⟨"docs", by decide⟩ none = .ok ["a", "b"] := by decide +kernel
      exact Except.ok.inj (hks.symm.trans h)
    rw [hkeys] at hok
    exact (hok _).2 (.cons (by decide +kernel) (.cons (by decide +kernel) .nil))

end Database

end DocSelect
