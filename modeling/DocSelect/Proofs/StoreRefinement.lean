import DocSelect.Proofs.TableContents
import DocSelect.Proofs.TableLookup
/-!
# A store is a finite map

The operations on one table are run one after the other, on a database and on a finite map from keys
to the texts of documents. Both give the same answers: each operation keeps that the table stands
for the map, or that there is neither, and while it does, the operation answers from the map.

* `StoreCommand`, `StoreAnswer` : the operations on the documents of one table and what they answer;
* `Database.perform`, `Database.run` : one operation, and a list of them, on a database;
* `Contents.perform`, `Contents.performAny`, `Contents.run` : the same on a finite map;
* `Contents.absent_eq_error_iff` : **where there is no table** every operation fails, unless the
  name is one under which the engine has a table with keys of its own;
* `Database.Holds` : the table of a name stands for a map, or is not there;
* `Database.Holds.perform` : **one operation** answers from the map and keeps what it stands for;
* `Database.run_refines_map` : **any operations, one after the other**, give the answers of a finite
  map.
-/

namespace DocSelect

/-! ## Operations on one table -/

/-- An operation on the documents of one table. -/
inductive StoreCommand
  /-- Stores the document of a key. -/
  | put (key : String) (d : Json)
  /-- Overwrites the document of a key that is there. -/
  | update (key : String) (d : Json)
  /-- Removes a key. -/
  | delete (key : String)
  /-- The document of a key. -/
  | get (key : String)
  /-- Whether a key is there. -/
  | contains (key : String)
  /-- The keys. -/
  | keys
  /-- The documents. -/
  | findAll
  /-- Removes the table. -/
  | drop
  /-- Opens the table, and makes it if it is not there. -/
  | open

/-- The answer of an operation. -/
inductive StoreAnswer
  /-- It is done. -/
  | done
  /-- Whether a key is, or was, there. -/
  | flag (b : Bool)
  /-- A document, or none. -/
  | document (d : Option Json)
  /-- Keys. -/
  | keys (ks : List String)
  /-- Documents. -/
  | documents (ds : List Json)

/-- What an operation gives: an answer or an error. -/
abbrev StoreOutcome := Except StoreError StoreAnswer

namespace Database

/-- The outcome of an operation and the database after it; an error leaves the database as it
was. -/
def outcome (db : Database) : Except StoreError (StoreAnswer × Database) → StoreOutcome × Database
  | .ok (a, u) => (.ok a, u)
  | .error e => (.error e, db)

/-- Carries out an operation. -/
def perform (db : Database) (name : TableName) : StoreCommand → StoreOutcome × Database
  | .put key d => db.outcome ((db.put name key d).map fun u => (.done, u))
  | .update key d => db.outcome ((db.update name key d).map fun r => (.flag r.2, r.1))
  | .delete key => db.outcome ((db.delete name key).map fun r => (.flag r.2, r.1))
  | .get key => db.outcome ((db.get name key).map fun d => (.document d, db))
  | .contains key => db.outcome ((db.contains name key).map fun b => (.flag b, db))
  | .keys => db.outcome ((db.keys name none).map fun ks => (.keys ks, db))
  | .findAll => db.outcome ((db.findAll name).map fun ds => (.documents ds, db))
  | .drop => db.outcome ((db.dropTable name).map fun u => (.done, u))
  | .open => db.outcome ((db.createTable name).map fun u => (.done, u))

/-- Carries out operations one after the other. -/
def run (db : Database) (name : TableName) : List StoreCommand → List StoreOutcome × Database
  | [] => ([], db)
  | c :: rest =>
    let step := db.perform name c
    let tail := step.2.run name rest
    (step.1 :: tail.1, tail.2)

end Database

/-! ## The same on a finite map -/

namespace Contents

/-- The document that is stored as a text under a key. -/
def decode (key text : String) : Except StoreError Json :=
  (Json.readCollapsed text).mapError fun f => .corruptRecord key (f.message text.toList)

/-- The document of a key, if it is there. -/
def get (m : Contents) (key : String) : Except StoreError (Option Json) :=
  match m.lookup key with
  | some text => (decode key text).map some
  | none => .ok none

/-- The documents in the order of their keys. -/
def findAll (m : Contents) : Except StoreError (List Json) :=
  m.texts.mapM fun e => decode e.1 e.2

/-- Carries out an operation on the map. Removing the table leaves no map. -/
def perform (m : Contents) : StoreCommand → StoreOutcome × Option Contents
  | .put key d => (.ok .done, some (m.insert key d.render))
  | .update key d =>
    (.ok (.flag (decide (key ∈ m))), some (if key ∈ m then m.insert key d.render else m))
  | .delete key => (.ok (.flag (decide (key ∈ m))), some (m.erase key))
  | .get key => ((m.get key).map .document, some m)
  | .contains key => (.ok (.flag (decide (key ∈ m))), some m)
  | .keys => (.ok (.keys m.keyList), some m)
  | .findAll => (m.findAll.map .documents, some m)
  | .drop => (.ok .done, none)
  | .open => (.ok .done, some m)

/-- The answer of an operation that reads, where there is no table: a table of the engine's own
answers as one without documents, and without such a table the operation fails. -/
def readAbsent (name : TableName) (asked : List String) (a : StoreAnswer) : StoreOutcome :=
  (Database.engine (Database.builtIn name asked)).map fun _ => a

/-- The failure of an operation that writes, where there is no table. -/
def writeAbsent (name : TableName) (refusal : String → EngineError) : StoreOutcome :=
  .error (.engine (Database.untouchable name refusal))

/-- The outcome of an operation where there is no table. -/
def absent (name : TableName) : StoreCommand → StoreOutcome
  | .put _ _ =>
    -- it looks for the key first
    match readAbsent name [keyColumn] (.flag false) with
    | .ok _ => writeAbsent name .notWritable
    | .error e => .error e
  | .update _ _ | .delete _ => writeAbsent name .notWritable
  | .get _ => readAbsent name [valueColumn, keyColumn] (.document none)
  | .contains _ => readAbsent name [keyColumn] (.flag false)
  | .keys => readAbsent name [keyColumn] (.keys [])
  | .findAll => readAbsent name [keyColumn, valueColumn] (.documents [])
  | .drop => writeAbsent name .notRemovable
  | .open => .ok .done

/-- Carries out an operation where there may be no map: then only opening the table makes one. -/
def performAny (name : TableName) : Option Contents → StoreCommand → StoreOutcome × Option Contents
  | some m, c => m.perform c
  | none, .open => (absent name .open, some ∅)
  | none, c => (absent name c, none)

theorem performAny_none {name : TableName} {c : StoreCommand} (hc : c ≠ .open) :
    performAny name none c = (absent name c, none) := by
  cases c with
  | «open» => exact absurd rfl hc
  | _ => rfl

/-- Carries out operations one after the other. -/
def run (name : TableName) (state : Option Contents) :
    List StoreCommand → List StoreOutcome × Option Contents
  | [] => ([], state)
  | c :: rest =>
    let step := performAny name state c
    let tail := run name step.2 rest
    (step.1 :: tail.1, tail.2)

/-! ### Where there is no table -/

variable {name : TableName}

/-- Where there is no table, every operation other than opening it fails, unless the name is one
under which the engine has a table with keys. -/
theorem absent_eq_error_iff :
    (∀ c : StoreCommand, c ≠ .open → ∃ e, performAny name none c = (.error e, none)) ↔
      ∀ own ∈ BuiltIn.withKeys, sameName own name.text = false := by
  constructor
  · intro h own hown
    by_contra hsame
    rw [Bool.not_eq_false] at hsame
    -- then asking for a key succeeds
    obtain ⟨t, hread⟩ := Database.exists_builtIn_eq_ok hown hsame
    have hc : StoreCommand.contains "" ≠ .open := by
      intro h
      cases h
    obtain ⟨e, he⟩ := h _ hc
    rw [performAny_none hc, absent, readAbsent, hread] at he
    cases he
  · intro h c hc
    have hread (asked : List String) (hasked : keyColumn ∈ asked) (a : StoreAnswer) :
        ∃ e, readAbsent name asked a = .error e := by
      obtain ⟨e, he⟩ := Database.builtIn_eq_error h hasked
      exact ⟨.engine e, by rw [readAbsent, he]; rfl⟩
    have hfails : ∃ e, absent name c = .error e := by
      cases c with
      | «open» => exact absurd rfl hc
      | put key d =>
        obtain ⟨e, he⟩ := hread [keyColumn] (by decide) (.flag false)
        exact ⟨e, by rw [absent, he]⟩
      | update key d => exact ⟨_, rfl⟩
      | delete key => exact ⟨_, rfl⟩
      | get key => exact hread [valueColumn, keyColumn] (by decide) (.document none)
      | contains key => exact hread [keyColumn] (by decide) (.flag false)
      | keys => exact hread [keyColumn] (by decide) (.keys [])
      | findAll => exact hread [keyColumn, valueColumn] (by decide) (.documents [])
      | drop => exact ⟨_, rfl⟩
    obtain ⟨e, he⟩ := hfails
    exact ⟨e, by rw [performAny_none hc, he]⟩

end Contents

namespace Database

variable {db : Database} {name : TableName}

/-! ## Databases that stand for a map -/

/-- The table of the name stands for the map, or there is neither; nobody has locked the file. -/
inductive Holds (db : Database) (name : TableName) : Option Contents → Prop
  /-- There is no table. -/
  | absent (hfree : db.isLocked = false) (htable : db.table? name.text = none) : Holds db name none
  /-- There is one. -/
  | present {t : Table} {m : Contents} (hfree : db.isLocked = false)
    (htable : db.table? name.text = some t) (ht : t.Holds m) : Holds db name (some m)

/-- The two databases differ at most in the table of the name. -/
def SameOthers (db u : Database) (name : TableName) : Prop :=
  ∀ other, sameName name.text other = false → u.table? other = db.table? other

theorem SameOthers.refl (db : Database) (name : TableName) : SameOthers db db name :=
  fun _ _ => rfl

/-- A table is put in the place of the one of its name. -/
theorem sameOthers_setTable {t u : Table} (htable : db.table? name.text = some t)
    (hname : u.name = t.name) : SameOthers db (db.setTable u) name := by
  have hsame : sameName u.name name.text = true := by
    rw [hname]
    exact sameName_of_table? htable
  intro other hother
  rw [table?_setTable ((table?_congr hsame).trans htable), sameName_congr hsame, hother]
  rfl

/-- The table of the name is removed. -/
theorem sameOthers_filter (db : Database) (name : TableName) :
    SameOthers db { db with tables := db.tables.filter fun t => !sameName t.name name.text }
      name := by
  intro other hother
  rw [table?_filter, hother]
  rfl

/-- A table of the name is made. -/
theorem sameOthers_append (htable : db.table? name.text = none) :
    SameOthers db { db with tables := db.tables ++ [.empty name.text .documents] } name := by
  intro other hother
  rw [table?_append htable _ _ rfl, hother]
  rfl

section

variable {t : Table} {m : Contents}

theorem demand_eq_ok (ht : t.Holds m) : demand t.shape.columns [valueColumn] = .ok () :=
  demand_eq_ok_iff.2 (TableShape.subset_columns ht.hasValues (by decide))

/-- A table that stands for another map is put in the place of the table of the name. -/
theorem holds_setTable (hfree : db.isLocked = false) (htable : db.table? name.text = some t)
    {u : Table} (hname : u.name = t.name) (hu : u.Holds m) :
    (db.setTable u).Holds name (some m) ∧ SameOthers db (db.setTable u) name := by
  refine ⟨.present hfree ?_ hu, sameOthers_setTable htable hname⟩
  have hsame : sameName u.name name.text = true := by
    rw [hname]
    exact sameName_of_table? htable
  rw [table?_setTable ((table?_congr hsame).trans htable), if_pos hsame]

/-- Whether a key is there is asked of the map. -/
theorem contains_eq_ok (hfree : db.isLocked = false) (htable : db.table? name.text = some t)
    (ht : t.Holds m) (key : String) : db.contains name key = .ok (decide (key ∈ m)) := by
  rw [contains_eq_contains htable hfree, ht.contains_eq]

/-! ### Operations that change the table -/

theorem update_eq_ok (hfree : db.isLocked = false) (htable : db.table? name.text = some t)
    (ht : t.Holds m) (key : String) (d : Json) :
    ∃ u, db.update name key d = .ok (u, decide (key ∈ m)) ∧
      u.Holds name (some (if key ∈ m then m.insert key d.render else m)) ∧
      SameOthers db u name := by
  have hupdate {u : Table} (hu : t.update key (.text d.render) = .ok u) :
      db.update name key d = .ok (db.setTable u, decide (key ∈ m)) := by
    simp only [update, target_eq_ok htable, demand_eq_ok ht, free_eq_ok hfree, Cell.ofJson, hu,
      ht.contains_eq, engine_ok_bind]
  by_cases hkey : key ∈ m
  · obtain ⟨u, hu, hname, hholds⟩ := ht.update_of_mem hkey d.render
    rw [if_pos hkey]
    exact ⟨_, hupdate hu, holds_setTable hfree htable hname hholds⟩
  · rw [if_neg hkey]
    exact ⟨_, hupdate (ht.update_of_notMem hkey d.render), holds_setTable hfree htable rfl ht⟩

theorem put_eq_ok (hfree : db.isLocked = false) (htable : db.table? name.text = some t)
    (ht : t.Holds m) (key : String) (d : Json) :
    ∃ u, db.put name key d = .ok u ∧ u.Holds name (some (m.insert key d.render)) ∧
      SameOthers db u name := by
  by_cases hkey : key ∈ m
  · -- the key is there and its row is overwritten
    obtain ⟨u, hu, hholds⟩ := update_eq_ok hfree htable ht key d
    rw [if_pos hkey] at hholds
    refine ⟨u, ?_, hholds⟩
    rw [put, contains_eq_ok hfree htable ht, decide_eq_true hkey, hu]
    rfl
  · -- the key is new and the constraint of the table is met
    obtain ⟨u, hu, hname, hholds⟩ := ht.insert hkey d.render
    refine ⟨db.setTable u, ?_, holds_setTable hfree htable hname hholds⟩
    have hinsert : t.insert ⟨key, .ofJson d⟩ = .ok u := hu
    have hadd : db.add name key d = .ok (db.setTable u) := by
      simp only [add, target_eq_ok htable, ht.hasValues, hinsert, engine_ok_bind, Bool.not_true,
        Bool.false_eq_true, if_false]
    rw [put, contains_eq_ok hfree htable ht, decide_eq_false hkey]
    exact hadd

theorem delete_eq_ok (hfree : db.isLocked = false) (htable : db.table? name.text = some t)
    (ht : t.Holds m) (key : String) :
    ∃ u, db.delete name key = .ok (u, decide (key ∈ m)) ∧ u.Holds name (some (m.erase key)) ∧
      SameOthers db u name := by
  refine ⟨db.setTable (t.delete key), ?_, holds_setTable hfree htable rfl (ht.delete key)⟩
  simp only [delete, target_eq_ok htable, free_eq_ok hfree, ht.contains_eq, engine_ok_bind]

theorem dropTable_eq_ok (hfree : db.isLocked = false) (htable : db.table? name.text = some t) :
    ∃ u, db.dropTable name = .ok u ∧ u.Holds name none ∧ SameOthers db u name := by
  refine ⟨{ db with tables := db.tables.filter fun t => !sameName t.name name.text }, ?_, ?_,
    sameOthers_filter db name⟩
  · simp only [dropTable, target_eq_ok htable, free_eq_ok hfree, engine_ok_bind]
  · refine .absent hfree ?_
    rw [table?_filter, if_pos (sameName_iff.2 rfl)]

/-- A table that is there is left as it is. -/
theorem createTable_eq_self (hfree : db.isLocked = false)
    (htable : db.table? name.text = some t) : db.createTable name = .ok db := by
  simp only [createTable, free_eq_ok hfree, htable, engine_ok_bind, Option.isSome_some, if_true]

/-- A table that is not there is made, without rows. -/
theorem createTable_eq_ok (hfree : db.isLocked = false) (htable : db.table? name.text = none) :
    ∃ u, db.createTable name = .ok u ∧ u.Holds name (some ∅) ∧ SameOthers db u name := by
  refine ⟨{ db with tables := db.tables ++ [.empty name.text .documents] }, ?_, ?_,
    sameOthers_append htable⟩
  · simp only [createTable, free_eq_ok hfree, htable, engine_ok_bind, Option.isSome_none,
      Bool.false_eq_true, if_false]
  · refine .present hfree ?_ (Table.holds_empty name.text)
    rw [table?_append htable _ _ rfl, if_pos (sameName_iff.2 rfl)]

/-! ### Operations that look at the table -/

theorem keys_eq_ok (hfree : db.isLocked = false) (htable : db.table? name.text = some t)
    (ht : t.Holds m) : db.keys name none = .ok m.keyList := by
  rw [keys_eq_keys htable hfree, ht.keys_eq]

theorem decode_ofText (key text : String) :
    (Row.ofText key text).decode = Contents.decode key text := by
  rw [Row.decode, Contents.decode, Row.ofText, Cell.decode]
  cases Json.readCollapsed text <;> rfl

/-- The document of a key is read from its only row. -/
theorem get_eq (hfree : db.isLocked = false) (htable : db.table? name.text = some t)
    (ht : t.Holds m) (key : String) : db.get name key = m.get key := by
  rw [get_eq_withKey htable hfree ht.hasValues, ht.withKey_eq, Contents.get]
  cases m.lookup key with
  | none => rfl
  | some text => simp only [Option.map_some, Option.toList_some, decode_ofText]

theorem decodeRows_map (es : List (String × String)) :
    decodeRows (es.map fun e => Row.ofText e.1 e.2) = es.mapM fun e => Contents.decode e.1 e.2 := by
  induction es with
  | nil => rfl
  | cons e es ih =>
    rw [List.map_cons, decodeRows, decode_ofText, ih, List.mapM_cons]
    rfl

theorem findAll_eq (hfree : db.isLocked = false) (htable : db.table? name.text = some t)
    (ht : t.Holds m) : db.findAll name = m.findAll := by
  rw [findAll_eq_decodeRows htable hfree ht.hasValues, ht.sorted_eq, ht.rows_eq, decodeRows_map,
    Contents.findAll]

end

/-! ### Operations where there is no table -/

section

variable (htable : db.table? name.text = none)
include htable

theorem source_eq_builtIn (asked : List String) : db.source name asked = builtIn name asked := by
  rw [source, htable]

/-- A statement that changes a table is refused. -/
theorem target_eq_error (refusal : String → EngineError) :
    db.target name refusal = .error (untouchable name refusal) := by
  rw [target, htable]

/-- What is read of a table of the engine's own is what is read of one without rows. -/
theorem read_of_absent (hfree : db.isLocked = false) {α : Type} (asked : List String)
    {read : Table → Except StoreError α} {a : α}
    (hread : ∀ n, read (.empty n .documents) = .ok a) :
    (do
      let t ← engine (db.source name asked)
      engine db.free
      read t) = (engine (builtIn name asked)).map fun _ => a := by
  rw [source_eq_builtIn htable, free_eq_ok hfree]
  unfold builtIn
  split
  · next b _ =>
    split
    · rfl
    · cases demand b.columns asked with
      | error e => rfl
      | ok u => exact hread b.name
  · rfl

end

/-! ## One operation, and many -/

/-- Where there is no table, an operation other than opening it changes nothing. -/
theorem perform_of_absent (hfree : db.isLocked = false) (htable : db.table? name.text = none)
    {c : StoreCommand} (hc : c ≠ .open) :
    db.perform name c = (Contents.absent name c, db) := by
  have hcontains (key : String) :
      db.contains name key = (engine (builtIn name [keyColumn])).map fun _ => false :=
    read_of_absent htable hfree [keyColumn] fun _ => rfl
  have hget (key : String) :
      db.get name key = (engine (builtIn name [valueColumn, keyColumn])).map fun _ => none :=
    read_of_absent htable hfree [valueColumn, keyColumn] fun _ => rfl
  have hkeys : db.keys name none = (engine (builtIn name [keyColumn])).map fun _ => [] :=
    read_of_absent htable hfree [keyColumn] fun _ => rfl
  have hfindAll :
      db.findAll name = (engine (builtIn name [keyColumn, valueColumn])).map fun _ => [] :=
    read_of_absent htable hfree [keyColumn, valueColumn] fun _ => rfl
  cases c with
  | «open» => exact absurd rfl hc
  | put key d =>
    have hadd : db.add name key d = .error (.engine (untouchable name .notWritable)) := by
      rw [add, target_eq_error htable]
      rfl
    rw [Database.perform, put, hcontains, Contents.absent, Contents.readAbsent]
    cases builtIn name [keyColumn] with
    | error e => rfl
    | ok t =>
      show db.outcome ((db.add name key d).map _) = _
      rw [hadd]
      rfl
  | update key d =>
    rw [Database.perform, update, target_eq_error htable]
    rfl
  | delete key =>
    rw [Database.perform, delete, target_eq_error htable]
    rfl
  | drop =>
    rw [Database.perform, dropTable, target_eq_error htable]
    rfl
  | get key =>
    rw [Database.perform, hget, Contents.absent, Contents.readAbsent]
    cases builtIn name [valueColumn, keyColumn] <;> rfl
  | contains key =>
    rw [Database.perform, hcontains, Contents.absent, Contents.readAbsent]
    cases builtIn name [keyColumn] <;> rfl
  | keys =>
    rw [Database.perform, hkeys, Contents.absent, Contents.readAbsent]
    cases builtIn name [keyColumn] <;> rfl
  | findAll =>
    rw [Database.perform, hfindAll, Contents.absent, Contents.readAbsent]
    cases builtIn name [keyColumn, valueColumn] <;> rfl

/-- **One operation** answers from the map, and keeps that the table stands for it; no other table
changes. -/
theorem Holds.perform {state : Option Contents} (h : db.Holds name state) (c : StoreCommand) :
    (db.perform name c).1 = (Contents.performAny name state c).1 ∧
      (db.perform name c).2.Holds name (Contents.performAny name state c).2 ∧
      SameOthers db (db.perform name c).2 name := by
  cases h with
  | absent hfree htable =>
    by_cases hc : c = .open
    · obtain ⟨u, hu, hopen⟩ := createTable_eq_ok hfree htable
      rw [hc, Database.perform, hu]
      exact ⟨rfl, hopen⟩
    · rw [perform_of_absent hfree htable hc, Contents.performAny_none hc]
      exact ⟨rfl, .absent hfree htable, .refl db name⟩
  | @present t m hfree htable ht =>
    have hholds : db.Holds name (some m) := .present hfree htable ht
    cases c with
    | put key d =>
      obtain ⟨u, hu, hput⟩ := put_eq_ok hfree htable ht key d
      rw [Database.perform, hu]
      exact ⟨rfl, hput⟩
    | update key d =>
      obtain ⟨u, hu, hupdate⟩ := update_eq_ok hfree htable ht key d
      rw [Database.perform, hu]
      exact ⟨rfl, hupdate⟩
    | delete key =>
      obtain ⟨u, hu, hdelete⟩ := delete_eq_ok hfree htable ht key
      rw [Database.perform, hu]
      exact ⟨rfl, hdelete⟩
    | get key =>
      rw [Database.perform, get_eq hfree htable ht]
      show (db.outcome _).1 = (m.get key).map _ ∧ _
      cases m.get key <;> exact ⟨rfl, hholds, .refl db name⟩
    | contains key =>
      rw [Database.perform, contains_eq_ok hfree htable ht]
      exact ⟨rfl, hholds, .refl db name⟩
    | keys =>
      rw [Database.perform, keys_eq_ok hfree htable ht]
      exact ⟨rfl, hholds, .refl db name⟩
    | findAll =>
      rw [Database.perform, findAll_eq hfree htable ht]
      show (db.outcome _).1 = m.findAll.map _ ∧ _
      cases m.findAll <;> exact ⟨rfl, hholds, .refl db name⟩
    | drop =>
      obtain ⟨u, hu, hdrop⟩ := dropTable_eq_ok hfree htable
      rw [Database.perform, hu]
      exact ⟨rfl, hdrop⟩
    | «open» =>
      rw [Database.perform, createTable_eq_self hfree htable]
      exact ⟨rfl, hholds, .refl db name⟩

/-- A run of operations answers from the map, and keeps that the table stands for it. -/
theorem Holds.run {state : Option Contents} (h : db.Holds name state) (cs : List StoreCommand) :
    (db.run name cs).1 = (Contents.run name state cs).1 ∧
      (db.run name cs).2.Holds name (Contents.run name state cs).2 ∧
      SameOthers db (db.run name cs).2 name := by
  induction cs generalizing db state with
  | nil => exact ⟨rfl, h, .refl db name⟩
  | cons c rest ih =>
    obtain ⟨hanswer, hholds, hothers⟩ := h.perform c
    obtain ⟨hanswers, hend, hothers'⟩ := ih hholds
    refine ⟨?_, hend, fun other hother => (hothers' other hother).trans (hothers other hother)⟩
    rw [Database.run, Contents.run, hanswer, hanswers]

/-- **A store is a finite map**: whatever operations are carried out one after the other, on a
database that has no table of the name and that nobody else has locked, they give the answers of a
finite map from keys to the texts of documents. At the end the table stands for the map, if one is
left, and no other table has changed. The keys of a map are listed in strictly increasing order of
their bytes, each of them and no other. Where no map is left every operation but opening the table
fails and changes nothing, if and only if the name is none of those under which the engine has a
table with keys of its own. -/
theorem run_refines_map (db : Database) (name : TableName) (hfree : db.isLocked = false)
    (hnew : db.table? name.text = none) (cs : List StoreCommand) :
    (db.run name cs).1 = (Contents.run name none cs).1 ∧
      (db.run name cs).2.Holds name (Contents.run name none cs).2 ∧
      (∀ other, sameName name.text other = false →
        (db.run name cs).2.table? other = db.table? other) ∧
      (∀ m : Contents,
        (m.keyList.Pairwise fun k l => utf8Bytes k.toList < utf8Bytes l.toList) ∧
          ∀ k, k ∈ m.keyList ↔ k ∈ m) ∧
      ((∀ c : StoreCommand, c ≠ .open →
          ∃ e, Contents.performAny name none c = (.error e, none)) ↔
        ∀ own ∈ BuiltIn.withKeys, sameName own name.text = false) := by
  obtain ⟨hanswers, hholds, hothers⟩ := (Holds.absent hfree hnew : db.Holds name none).run cs
  exact ⟨hanswers, hholds, hothers, fun m => ⟨m.pairwise_keyList, fun k => Contents.mem_keyList⟩,
    Contents.absent_eq_error_iff⟩

/-- The keys are listed in order, an absent key is not updated, and nothing is left of a table that
is dropped. -/
theorem run_refines_map_dropped :
    (Contents.run ⟨"docs", by decide⟩ none [.open, .put "b" .null, .put "a" (.bool true),
        .update "c" .null, .keys, .delete "b", .drop, .contains "a", .open, .keys]).1 =
      [.ok .done, .ok .done, .ok .done, .ok (.flag false), .ok (.keys ["a", "b"]), .ok (.flag true),
        .ok .done, .error (.engine (.noTable "docs")), .ok .done, .ok (.keys [])] := by
  have hrun := run_refines_map ⟨default, false, [], false⟩ ⟨"docs", by decide⟩ rfl rfl
    [.open, .put "b" .null, .put "a" (.bool true), .update "c" .null, .keys, .delete "b", .drop,
      .contains "a", .open, .keys]
  exact hrun.1.symm.trans rfl

/-- A table that is dropped is not unusable if the engine has one of the name: nothing is found in
it any more, but looking for documents does not fail. -/
theorem run_after_drop_succeeds :
    (Database.run ⟨default, false, [], false⟩ ⟨"json_each", by decide⟩
        [.open, .put "k" .null, .drop, .get "k", .contains "k", .keys, .findAll,
          .update "k" .null]).1 =
      [.ok .done, .ok .done, .ok .done, .ok (.document none), .ok (.flag false), .ok (.keys []),
        .ok (.documents []), .error (.engine (.notWritable "json_each"))] := by
  rfl

end Database

end DocSelect
