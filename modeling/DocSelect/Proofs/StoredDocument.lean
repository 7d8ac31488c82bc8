import DocSelect.Proofs.DocumentText
import DocSelect.Proofs.NumberReread
import DocSelect.Proofs.StoreRefinement
/-!
# Reading back a stored document

A document is stored as its text, and what is found under its key is what this text is read as. So
the document comes back unchanged just if its text is read as the document itself: it repeats no
key, it nests no deeper than the reader follows, and each of its numbers is read back as itself. A
binary number need not be, since the reader rounds twice where the digits do not fit a significand.

* `Contents.decode_render` : what the text of a document decodes to;
* `Database.Keeps` : what is answered for a key under which a document was stored;
* `Database.Holds.keeps` : **it is what the text of the document is read as**;
* `Database.get_stored` : **storing a document keeps it**, in this sense, and so does overwriting
  one;
* `Database.get_stored_changed` : a number of sixteen digits comes back as another one, and a
  document that nests deeper than the reader follows does not come back.
-/

namespace DocSelect

/-! ## What a text decodes to -/

namespace Contents

/-- The text of a document decodes to what it is read as, with each key once; if it is not read, the
record is corrupt. -/
theorem decode_render (key : String) (d : Json) :
    match d.reread Json.maxDepth with
    | some x => decode key d.render = .ok x.collapse
    | none => ∃ reason, decode key d.render = .error (.corruptRecord key reason) := by
  have hread := d.toOption_read_render
  rw [decode, Json.readCollapsed]
  cases hd : Json.read d.render with
  | error f =>
    rw [hd] at hread
    rw [← hread]
    exact ⟨_, rfl⟩
  | ok x =>
    rw [hd] at hread
    rw [← hread]
    rfl

theorem get_insert (m : Contents) (key text : String) :
    Contents.get (m.insert key text) key = (decode key text).map some := by
  rw [get, Finmap.lookup_insert]

end Contents

/-- A document is what it collapses to after reading it back, just if it repeats no key and is read
back as itself. -/
theorem Json.collapse_eq_iff_of_reread {d x : Json} {depth : ℕ} (h : d.reread depth = some x) :
    x.collapse = d ↔ d.KeysDistinct ∧ d.reread depth = some d := by
  constructor
  · intro hx
    have hd : d.KeysDistinct := hx ▸ x.keysDistinct_collapse
    rw [(hd.of_reread h).collapse_eq_self] at hx
    exact ⟨hd, hx ▸ h⟩
  · rintro ⟨hd, hself⟩
    obtain rfl := Option.some.inj (h.symm.trans hself)
    exact hd.collapse_eq_self

namespace Database

/-! ## What is found under a key -/

/-- What is answered for a key under which a document was stored. -/
structure Keeps (db : Database) (name : TableName) (key : String) (d : Json) : Prop where
  /-- When it is the document. -/
  same_iff : db.get name key = .ok (some d) ↔
    d.depth ≤ Json.maxDepth ∧ d.KeysDistinct ∧ d.AllNumbers fun n => n.reread = some n
  /-- When it is a report of a corrupt record. -/
  corrupt_iff : (∃ reason, db.get name key = .error (.corruptRecord key reason)) ↔
    ¬ (d.depth ≤ Json.maxDepth ∧ d.AllNumbers fun n => ∃ m, n.reread = some m)
  /-- What it is, if it is no report. -/
  read : ∀ x, d.reread Json.maxDepth = some x → db.get name key = .ok (some x.collapse)

/-- **What is found under a key is what the text of the document is read as.** -/
theorem Holds.keeps {db : Database} {name : TableName} {m : Contents} {key : String} {d : Json}
    (h : db.Holds name (some (m.insert key d.render))) : db.Keeps name key d := by
  have hget : db.get name key = (Contents.decode key d.render).map some := by
    cases h with
    | present hfree htable ht => rw [get_eq hfree htable ht, Contents.get_insert]
  have hdecode := Contents.decode_render key d
  have hsome := d.exists_reread_iff Json.maxDepth
  have hself := d.reread_eq_self_iff Json.maxDepth
  cases hd : d.reread Json.maxDepth with
  | some x =>
    simp only [hd] at hdecode
    rw [hdecode] at hget
    refine ⟨?_, ?_, fun y hy => ?_⟩
    · rw [hget, and_left_comm, ← hself, ← Json.collapse_eq_iff_of_reread hd]
      simp [Except.map]
    · rw [hget, ← hsome, hd]
      simp [Except.map]
    · rw [hget, Option.some.inj (hd.symm.trans hy)]
      rfl
  | none =>
    simp only [hd] at hdecode
    obtain ⟨reason, hreason⟩ := hdecode
    rw [hreason] at hget
    refine ⟨?_, ?_, fun y hy => ?_⟩
    · rw [hget, and_left_comm, ← hself, hd]
      simp [Except.map]
    · rw [hget, ← hsome, hd]
      simp [Except.map]
    · rw [hd] at hy
      cases hy

/-! ## Storing a document -/

/-- After a document is stored under a key, it is found there as far as its text is read. -/
theorem Holds.exists_put {db : Database} {name : TableName} {m : Contents}
    (h : db.Holds name (some m)) (key : String) (d : Json) :
    ∃ u, db.put name key d = .ok u ∧ u.Keeps name key d := by
  cases h with
  | present hfree htable ht =>
    obtain ⟨u, hu, hholds, -⟩ := put_eq_ok hfree htable ht key d
    exact ⟨u, hu, hholds.keeps⟩

/-- So it is after the document of a key is overwritten. -/
theorem Holds.exists_update {db : Database} {name : TableName} {m : Contents}
    (h : db.Holds name (some m)) {key : String} (hkey : key ∈ m) (d : Json) :
    ∃ u, db.update name key d = .ok (u, true) ∧ u.Keeps name key d := by
  cases h with
  | present hfree htable ht =>
    obtain ⟨u, hu, hholds, -⟩ := update_eq_ok hfree htable ht key d
    rw [if_pos hkey] at hholds
    rw [decide_eq_true hkey] at hu
    exact ⟨u, hu, hholds.keeps⟩

/-- **Storing a document keeps it**, as far as its text is read back: it comes back unchanged just
if it repeats no key, nests no deeper than the reader follows and has only numbers that are read
back as themselves. All integers are, and so are the binary numbers whose text has few digits. -/
theorem get_stored {db : Database} {name : TableName} {m : Contents} (h : db.Holds name (some m))
    (key : String) (d : Json) :
    (∃ u, db.put name key d = .ok u ∧ u.Keeps name key d) ∧
      (key ∈ m → ∃ u, db.update name key d = .ok (u, true) ∧ u.Keeps name key d) ∧
      (∀ w, (Number.whole w).reread = some (.whole w)) ∧
      ∀ x : Binary64, x.textDecimal.coefficient < 2 ^ 53 → |x.textDecimal.scale| ≤ 22 →
        (Number.float x).reread = some (.float x) :=
  ⟨h.exists_put key d, fun hkey => h.exists_update hkey d, Json.Read.reread_whole,
    fun _ => Json.Read.reread_float⟩

/-- An array of a number with a fraction, stored under a new key. -/
theorem get_stored_fraction :
    ∃ u, put ⟨default, false, [.empty "docs" .documents], false⟩ ⟨"docs", by decide⟩ "k"
        (.array [.number (.float ⟨false, 0x18000000000000, -52, by decide⟩)]) = .ok u ∧
      get u ⟨"docs", by decide⟩ "k" =
        .ok (some (.array [.number (.float ⟨false, 0x18000000000000, -52, by decide⟩)])) := by
  have hholds : Holds ⟨default, false, [.empty "docs" .documents], false⟩ ⟨"docs", by decide⟩
      (some ∅) := .present rfl rfl (Table.holds_empty "docs")
  have hstored := get_stored hholds "k"
    (.array [.number (.float ⟨false, 0x18000000000000, -52, by decide⟩)])
  have hnumber := hstored.2.2.2 ⟨false, 0x18000000000000, -52, by decide⟩ (by decide +kernel)
    (by decide +kernel)
  obtain ⟨u, hu, hkeeps⟩ := hstored.1
  refine ⟨u, hu, hkeeps.same_iff.2 ⟨by decide, ?_, ?_⟩⟩
  · simp [Json.KeysDistinct]
  · simpa [Json.AllNumbers] using hnumber

/-- A whole number of sixteen digits comes back one smaller, for its text has a zero behind the
point and these seventeen digits do not fit a significand. A document that nests one deeper than the
reader follows is stored, and is then reported as corrupt. -/
theorem get_stored_changed :
    (∃ u, put ⟨default, false, [.empty "docs" .documents], false⟩ ⟨"docs", by decide⟩ "k"
        (.number (.float ⟨false, 0x1FFFFFFFFFFFFF, 0, by decide⟩)) = .ok u ∧
      get u ⟨"docs", by decide⟩ "k" =
        .ok (some (.number (.float ⟨false, 0x1FFFFFFFFFFFFE, 0, by decide⟩)))) ∧
    ∃ u reason, put ⟨default, false, [.empty "docs" .documents], false⟩ ⟨"docs", by decide⟩ "k"
        ((List.range 128).foldl (fun d _ => .array [d]) .null) = .ok u ∧
      get u ⟨"docs", by decide⟩ "k" = .error (.corruptRecord "k" reason) := by
  have hholds : Holds ⟨default, false, [.empty "docs" .documents], false⟩ ⟨"docs", by decide⟩
      (some ∅) := .present rfl rfl (Table.holds_empty "docs")
  have hreread : (Number.float ⟨false, 0x1FFFFFFFFFFFFF, 0, by decide⟩).reread =
      some (.float ⟨false, 0x1FFFFFFFFFFFFE, 0, by decide⟩) := by
    decide +kernel
  constructor
  · obtain ⟨u, hu, hkeeps⟩ := hholds.exists_put "k"
      (.number (.float ⟨false, 0x1FFFFFFFFFFFFF, 0, by decide⟩))
    have hread := hkeeps.read (.number (.float ⟨false, 0x1FFFFFFFFFFFFE, 0, by decide⟩))
      (by rw [Json.reread, hreread]; rfl)
    exact ⟨u, hu, hread⟩
  · obtain ⟨u, hu, hkeeps⟩ := hholds.exists_put "k"
      ((List.range 128).foldl (fun d _ => .array [d]) .null)
    have hdeep : ¬ ((List.range 128).foldl (fun d _ => Json.array [d]) .null).depth ≤
        Json.maxDepth := by
      decide +kernel
    obtain ⟨reason, hreason⟩ := hkeeps.corrupt_iff.2 fun h => hdeep h.1
    exact ⟨u, reason, hu, hreason⟩

end Database

end DocSelect
