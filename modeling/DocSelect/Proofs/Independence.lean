import DocSelect.Proofs.SelectorReading
import DocSelect.Proofs.StoreRefinement
/-!
# Tables of other names

An operation touches the table of its name and no other one, whatever the database holds. The engine
takes two names for one if they differ only in the case of ASCII letters, so this is the line
between tables that are independent and names of one and the same table.

* `Database.Frame` : two databases differ at most in the table of a name;
* `Database.frame_perform`, `Database.frame_run` : **an operation, and any number of them, touch
  only the table of their name**;
* `Database.SameView` : everything that can be asked of a table has the same answer;
* `Database.Independent` : what is done under one name is not seen under another;
* `Database.independent_iff` : **two names are independent just if they differ in more than case**;
* `Database.independent_letter_case` : two names that differ in case, and one table.
-/

namespace DocSelect

/-! ## Changes keep the name of a table -/

namespace Table

variable {t u : Table}

theorem name_of_insert {r : Row} (h : t.insert r = .ok u) : u.name = t.name := by
  unfold insert at h
  split at h
  · cases h
  · split at h
    · split at h
      · cases h
      · cases h
        rfl
    · cases h
      rfl

theorem name_of_update {key : String} {c : Cell} (h : t.update key c = .ok u) :
    u.name = t.name := by
  unfold update at h
  split at h
  · cases h
  · cases h
    rfl

end Table

namespace Database

/-! ## One table at most -/

/-- The two databases differ at most in the table of the name. -/
structure Frame (db u : Database) (name : TableName) : Prop where
  /-- The other tables are the same. -/
  others : SameOthers db u name
  /-- The lock is the same. -/
  isLocked : u.isLocked = db.isLocked
  /-- The settings are the same. -/
  config : u.config = db.config

variable {db u v : Database} {name : TableName}

theorem Frame.refl (db : Database) (name : TableName) : Frame db db name :=
  ⟨.refl db name, rfl, rfl⟩

/-- Two changes of one table are a change of that table. -/
theorem Frame.trans (h : Frame db u name) (h' : Frame u v name) : Frame db v name where
  others other hother := (h'.others other hother).trans (h.others other hother)
  isLocked := h'.isLocked.trans h.isLocked
  config := h'.config.trans h.config

theorem engine_eq_ok {α : Type} {x : Except EngineError α} {a : α} :
    engine x = .ok a ↔ x = .ok a := by
  cases x <;> simp [engine, Except.mapError]

/-- A table that a statement changes is one that someone made. -/
theorem table?_of_target {refusal : String → EngineError} {t : Table}
    (h : engine (db.target name refusal) = .ok t) : db.table? name.text = some t := by
  rw [engine_eq_ok, target] at h
  split at h
  · next ht =>
    cases h
    exact ht
  · cases h

/-- A table is put in the place of the one of its name. -/
theorem frame_setTable {t w : Table} (htable : db.table? name.text = some t)
    (hname : w.name = t.name) : Frame db (db.setTable w) name where
  others := sameOthers_setTable htable hname
  isLocked := rfl
  config := rfl

/-! ### Operations -/

theorem frame_update {key : String} {d : Json} {r : Database × Bool}
    (h : db.update name key d = .ok r) : Frame db r.1 name := by
  obtain ⟨t, ht, h⟩ := bind_eq_ok.1 h
  obtain ⟨-, -, h⟩ := bind_eq_ok.1 h
  obtain ⟨-, -, h⟩ := bind_eq_ok.1 h
  obtain ⟨w, hw, h⟩ := bind_eq_ok.1 h
  cases h
  exact frame_setTable (table?_of_target ht) (Table.name_of_update (engine_eq_ok.1 hw))

theorem frame_add {key : String} {d : Json} (h : db.add name key d = .ok u) :
    Frame db u name := by
  obtain ⟨t, ht, h⟩ := bind_eq_ok.1 h
  split at h
  · cases h
  · split at h
    · next w hw =>
      cases h
      exact frame_setTable (table?_of_target ht) (Table.name_of_insert hw)
    · cases h

/-- Storing a document changes the table of the name, whether the key is there or not. -/
theorem frame_put {key : String} {d : Json} (h : db.put name key d = .ok u) : Frame db u name := by
  obtain ⟨there, -, h⟩ := bind_eq_ok.1 h
  split at h
  · obtain ⟨r, hr, h⟩ := bind_eq_ok.1 h
    cases h
    exact frame_update hr
  · exact frame_add h

theorem frame_delete {key : String} {r : Database × Bool} (h : db.delete name key = .ok r) :
    Frame db r.1 name := by
  obtain ⟨t, ht, h⟩ := bind_eq_ok.1 h
  obtain ⟨-, -, h⟩ := bind_eq_ok.1 h
  cases h
  exact frame_setTable (table?_of_target ht) rfl

theorem frame_dropTable (h : db.dropTable name = .ok u) : Frame db u name := by
  obtain ⟨t, ht, h⟩ := bind_eq_ok.1 h
  obtain ⟨-, -, h⟩ := bind_eq_ok.1 h
  cases h
  exact ⟨sameOthers_filter db name, rfl, rfl⟩

theorem frame_createTable (h : db.createTable name = .ok u) : Frame db u name := by
  obtain ⟨-, -, h⟩ := bind_eq_ok.1 h
  cases h
  split
  · exact .refl db name
  · next hnone =>
    rw [Bool.not_eq_true, Option.isSome_eq_false_iff, Option.isNone_iff_eq_none] at hnone
    exact ⟨sameOthers_append hnone, rfl, rfl⟩

/-- The outcome of an operation that leaves the other tables, or fails and changes nothing. -/
theorem frame_outcome {α : Type} {r : Except StoreError α} {answer : α → StoreAnswer}
    {after : α → Database} (h : ∀ a, r = .ok a → Frame db (after a) name) :
    Frame db (db.outcome (r.map fun a => (answer a, after a))).2 name := by
  cases r with
  | ok a => exact h a rfl
  | error e => exact .refl db name

/-- **An operation touches only the table of its name.** -/
theorem frame_perform (db : Database) (name : TableName) (c : StoreCommand) :
    Frame db (db.perform name c).2 name := by
  cases c with
  | put key d => exact frame_outcome fun _ => frame_put
  | update key d => exact frame_outcome fun _ => frame_update
  | delete key => exact frame_outcome fun _ => frame_delete
  | drop => exact frame_outcome fun _ => frame_dropTable
  | «open» => exact frame_outcome fun _ => frame_createTable
  | get key => exact frame_outcome fun _ _ => .refl db name
  | contains key => exact frame_outcome fun _ _ => .refl db name
  | keys => exact frame_outcome fun _ _ => .refl db name
  | findAll => exact frame_outcome fun _ _ => .refl db name

/-- **Any number of operations touch only the table of their name.** -/
theorem frame_run (db : Database) (name : TableName) (cs : List StoreCommand) :
    Frame db (db.run name cs).2 name := by
  induction cs generalizing db with
  | nil => exact .refl db name
  | cons c rest ih => exact (frame_perform db name c).trans (ih _)

/-! ## What can be asked of a table -/

/-- Everything that can be asked of the table of the name has the same answer, be it a result or an
error. -/
structure SameView (db u : Database) (name : TableName) : Prop where
  /-- The document of each key. -/
  get : ∀ key, u.get name key = db.get name key
  /-- Whether a key is there. -/
  contains : ∀ key, u.contains name key = db.contains name key
  /-- The keys, or those that match a pattern. -/
  keys : ∀ pattern, u.keys name pattern = db.keys name pattern
  /-- The documents. -/
  findAll : u.findAll name = db.findAll name
  /-- The documents that a selector selects. -/
  findSelector : ∀ s, u.findSelector name s = db.findSelector name s

/-- The answers hang on the table, the lock and the settings alone. -/
theorem Frame.sameView {other : TableName} (h : Frame db u name)
    (hother : sameName name.text other.text = false) : SameView db u other := by
  have htable? : u.table? other.text = db.table? other.text := h.others other.text hother
  have hsource (asked : List String) : u.source other asked = db.source other asked := by
    rw [source, source, htable?]
  have hfree : u.free = db.free := by rw [free, free, h.isLocked]
  refine ⟨fun key => ?_, fun key => ?_, fun pattern => ?_, ?_, fun s => ?_⟩
  · rw [Database.get, Database.get, hsource, hfree]
  · rw [Database.contains, Database.contains, hsource, hfree]
  · rw [Database.keys, Database.keys, hsource, hfree]
  · rw [Database.findAll, Database.findAll, hsource, hfree]
  · have hrows : u.matchingRows other = db.matchingRows other := by
      funext b
      rw [matchingRows, matchingRows, hsource, hfree, h.config]
    have herror : u.searchError other = db.searchError other := by
      funext e
      rw [searchError, searchError, htable?]
    rw [Database.findSelector, Database.findSelector, findPredicate, findPredicate, hrows, herror]

/-- The table of the name has no documents. -/
structure IsEmpty (db : Database) (name : TableName) : Prop where
  /-- No key has a document. -/
  get : ∀ key, db.get name key = .ok none
  /-- No key is there. -/
  contains : ∀ key, db.contains name key = .ok false
  /-- There are no keys. -/
  keys : db.keys name none = .ok []
  /-- There are no documents. -/
  findAll : db.findAll name = .ok []

/-- A table that stands for the map without keys has no documents. -/
theorem Holds.isEmpty (h : db.Holds name (some ∅)) : db.IsEmpty name := by
  cases h with
  | present hfree htable ht =>
    refine ⟨fun key => ?_, fun key => ?_, ?_, ?_⟩
    · rw [get_eq hfree htable ht]
      rfl
    · rw [contains_eq_ok hfree htable ht]
      rfl
    · rw [keys_eq_ok hfree htable ht, Contents.keyList_empty]
    · rw [findAll_eq hfree htable ht, Contents.findAll, Contents.texts, Contents.keyList_empty]
      rfl

/-! ## Independent names -/

/-- Whatever is done under the first name, on whatever database: what can be asked under the second
one has the answers that it had, and a table that is made under the second one has no documents and
changes nothing under the first. -/
def Independent (a b : TableName) : Prop :=
  ∀ (db : Database) (cs : List StoreCommand),
    SameView db (db.run a cs).2 b ∧
      (db.isLocked = false → db.table? b.text = none →
        ∃ u, (db.run a cs).2.createTable b = .ok u ∧ u.IsEmpty b ∧
          SameView (db.run a cs).2 u a)

/-- Names that differ in more than case are those of different tables. -/
theorem independent_of_sameName_eq_false {a b : TableName}
    (h : sameName a.text b.text = false) : Independent a b := by
  intro db cs
  have hframe := frame_run db a cs
  refine ⟨hframe.sameView h, fun hfree hnone => ?_⟩
  rw [← hframe.isLocked] at hfree
  rw [← hframe.others b.text h] at hnone
  obtain ⟨u, hu, hholds, -⟩ := createTable_eq_ok hfree hnone
  rw [sameName_comm] at h
  exact ⟨u, hu, hholds.isEmpty, (frame_createTable hu).sameView h⟩

/-- A document that is put under one name is found under every name that differs from it only in
case. -/
theorem contains_of_put {a b : TableName} (h : sameName a.text b.text = true)
    {t : Table} {m : Contents} (hfree : db.isLocked = false) (htable : db.table? a.text = some t)
    (ht : t.Holds m) (key : String) (d : Json) :
    ∃ u, db.put a key d = .ok u ∧ u.contains b key = .ok true := by
  obtain ⟨u, hu, hholds, -⟩ := put_eq_ok hfree htable ht key d
  refine ⟨u, hu, ?_⟩
  cases hholds with
  | present hfree' htable' ht' =>
    rw [table?_congr h] at htable'
    rw [contains_eq_ok hfree' htable' ht']
    simp

/-- **Two names are independent just if they differ in more than the case of ASCII letters.** If
they do, no operations under one of them are seen under the other, and a new table is empty; if they
do not, a document that is put under one is found under the other. -/
theorem independent_iff (a b : TableName) : Independent a b ↔ sameName a.text b.text = false := by
  refine ⟨fun h => ?_, independent_of_sameName_eq_false⟩
  rw [← Bool.not_eq_true]
  intro hsame
  -- a table without rows, into which one document is put
  let db : Database := ⟨default, false, [.empty a.text .documents], false⟩
  have htable : db.table? a.text = some (.empty a.text .documents) := by
    simp [db, table?, Table.empty, sameName_iff]
  have hholds := Table.holds_empty a.text
  obtain ⟨u, hu, hcontains⟩ := contains_of_put hsame rfl htable hholds "k" .null
  have hrun : (db.run a [.put "k" .null]).2 = u := by
    rw [run, run, perform, hu]
    rfl
  have hview := (h db [.put "k" .null]).1.contains "k"
  rw [hrun, hcontains, contains_eq_ok rfl ((table?_congr hsame).symm.trans htable) hholds] at hview
  cases hview

/-- A document is put into a table, and the name is then opened in capitals: no table is made, the
document is there, and deleting it there deletes it here. -/
theorem independent_letter_case :
    ∃ a b : TableName, a ≠ b ∧ ∃ u,
      (run ⟨default, false, [], false⟩ a [.open, .put "k" (.bool true)]).2 = u ∧
        (u.run b [.open, .keys, .delete "k"]).1 =
          [.ok .done, .ok (.keys ["k"]), .ok (.flag true)] ∧
        (u.run b [.open, .keys, .delete "k"]).2.keys a none = .ok [] ∧ ¬ Independent a b := by
  refine ⟨⟨"docs", by decide⟩, ⟨"Docs", by decide⟩, by decide, _, rfl, by rfl, by rfl, ?_⟩
  intro h
  have hview := (h ⟨default, false, [], false⟩ [.open, .put "k" (.bool true)]).1.contains "k"
  cases hview

end Database

end DocSelect
