import DocSelect.Store.Documents
/-!
# The table of a name

A statement reads and changes the table of its name, where the case of ASCII letters does not
matter. If nobody has made a table of the name, it may read one that the engine has of its own.

* `sameName_congr`, `sameName_congr_right` : names that differ only in case are those of the same
  tables;
* `BuiltIn.withKeys` : the names under which the engine has a table with keys of its own;
* `Database.table?_setTable`, `Database.table?_append`, `Database.table?_filter` : what is found
  under a name after a table was changed, made or removed;
* `Database.builtIn_eq_error`, `Database.exists_builtIn_eq_ok` : what can be read of the engine's
  own tables;
* `Database.keys_eq_keys`, `Database.get_eq_withKey`, `Database.findAll_eq_decodeRows` : **what is
  read of a table that is there** hangs on its rows.
-/

namespace DocSelect

/-! ## Tables by name -/

theorem sameName_iff {a b : String} :
    sameName a b = true ↔ a.toList.map Char.toLower = b.toList.map Char.toLower := by
  rw [sameName, beq_iff_eq]

theorem sameName_congr {a b : String} (h : sameName a b = true) (c : String) :
    sameName a c = sameName b c := by
  rw [sameName, sameName, sameName_iff.1 h]

theorem sameName_comm (a b : String) : sameName a b = sameName b a := by
  rw [sameName, sameName, Bool.beq_comm]

theorem sameName_congr_right {a b : String} (h : sameName a b = true) (c : String) :
    sameName c a = sameName c b := by
  rw [sameName_comm, sameName_congr h, sameName_comm]

/-! ## Tables of the engine's own -/

namespace BuiltIn

/-- The tables of the engine's own that have keys. -/
def withKeys : List String := ["json_each", "json_tree", "pragma_index_xinfo"]

/-- Which table of the engine's own it is depends on the name up to the case of letters. -/
theorem find?_congr {a b : String} (h : sameName a b = true) :
    (find? a).map (fun t => (t.columns, t.needsArguments)) =
      (find? b).map fun t => (t.columns, t.needsArguments) := by
  unfold find?
  simp only [sameName_congr_right h]
  cases functions.find? fun t => sameName t.name b with
  | some t => rfl
  | none => cases settings.find? fun s => sameName ("pragma_" ++ s) b <;> rfl

/-- A table of the engine's own with keys has one of the names. -/
theorem sameName_of_find? {name : String} {b : BuiltIn} (h : find? name = some b)
    (hkey : keyColumn ∈ b.columns) : ∃ own ∈ withKeys, sameName own name = true := by
  have hfunctions : ∀ b ∈ functions, keyColumn ∈ b.columns → b.name ∈ withKeys := by decide
  unfold find? at h
  cases hf : functions.find? fun b => sameName b.name name with
  | some t =>
    rw [hf] at h
    cases h
    exact ⟨b.name, hfunctions b (List.mem_of_find?_eq_some hf) hkey,
      List.find?_some (p := fun b : BuiltIn => sameName b.name name) hf⟩
  | none =>
    rw [hf] at h
    cases hs : settings.find? fun s => sameName ("pragma_" ++ s) name with
    | none =>
      rw [hs] at h
      cases h
    | some s =>
      rw [hs] at h
      cases h
      have hsame : sameName ("pragma_" ++ s) name = true :=
        List.find?_some (p := fun s => sameName ("pragma_" ++ s) name) hs
      by_cases hindex : s = "index_xinfo"
      · rw [hindex] at hsame
        exact ⟨_, by decide, hsame⟩
      · rw [ofSetting, if_neg hindex] at hkey
        cases hkey

/-- Under each of the names there is such a table, and it can be read. -/
theorem find?_of_mem_withKeys {own name : String} (hown : own ∈ withKeys)
    (h : sameName own name = true) :
    ∃ b, find? name = some b ∧ b.needsArguments = false ∧ keyColumn ∈ b.columns := by
  have hread : ∃ columns, (find? own).map (fun t => (t.columns, t.needsArguments)) =
      some (columns, false) ∧ keyColumn ∈ columns := by
    simp only [withKeys, List.mem_cons, List.not_mem_nil, or_false] at hown
    rcases hown with rfl | rfl | rfl
    · exact ⟨[keyColumn, valueColumn], by decide +kernel, by decide⟩
    · exact ⟨[keyColumn, valueColumn], by decide +kernel, by decide⟩
    · exact ⟨[keyColumn], by decide +kernel, by decide⟩
  obtain ⟨columns, hfind, hkey⟩ := hread
  rw [find?_congr h, Option.map_eq_some_iff] at hfind
  obtain ⟨b, hb, heq⟩ := hfind
  obtain ⟨hcolumns, hargs⟩ := Prod.mk.inj heq
  rw [← hcolumns] at hkey
  exact ⟨b, hb, hargs, hkey⟩

end BuiltIn

namespace Database

variable {db : Database} {name : TableName}

/-! ## What is found under a name -/

theorem sameName_of_table? {t : Table} {name : String} (h : db.table? name = some t) :
    sameName t.name name = true :=
  List.find?_some (p := fun t : Table => sameName t.name name) h

theorem table?_congr {a b : String} (h : sameName a b = true) : db.table? a = db.table? b := by
  rw [table?, table?]
  simp only [sameName_congr_right h]

/-- A table that is put in the place of the one with its name is found instead of it; what is found
under other names stays. -/
theorem table?_setTable {t u : Table} (h : db.table? u.name = some t) (name : String) :
    (db.setTable u).table? name = if sameName u.name name then some u else db.table? name := by
  have hname (v : Table) : sameName (if sameName v.name u.name then u else v).name name =
      sameName v.name name := by
    split
    · next hv => exact (sameName_congr hv name).symm
    · rfl
  have hfind : (db.setTable u).table? name =
      (db.table? name).map fun v => if sameName v.name u.name then u else v := by
    rw [table?, setTable, List.find?_map]
    simp only [Function.comp_def, hname]
    rfl
  rw [hfind]
  split
  · next hsame => rw [← table?_congr hsame, h, Option.map_some, if_pos (sameName_of_table? h)]
  · next hother =>
    cases hv : db.table? name with
    | none => rfl
    | some v =>
      -- what is found has not the name of the table that is put in
      have hne : ¬ sameName v.name u.name = true := by
        rw [sameName_congr (sameName_of_table? hv), sameName_comm]
        exact hother
      rw [Option.map_some, if_neg hne]

/-- A table is made where there is none of its name. -/
theorem table?_append {name : String} (h : db.table? name = none) (t : Table) (other : String)
    (ht : t.name = name) :
    Database.table? { db with tables := db.tables ++ [t] } other =
      if sameName name other then some t else db.table? other := by
  rw [table?, List.find?_append, List.find?_singleton, ht]
  show (db.table? other).or _ = _
  split
  · next hsame => rw [← table?_congr hsame, h, Option.none_or]
  · rw [Option.or_none]

/-- Removing the tables of a name leaves the others. -/
theorem table?_filter (name other : String) :
    Database.table? { db with tables := db.tables.filter fun t => !sameName t.name name } other =
      if sameName name other then none else db.table? other := by
  rw [table?, List.find?_filter]
  split
  · next hsame =>
    rw [List.find?_eq_none]
    intro t _
    rw [sameName_comm t.name other, ← sameName_congr hsame, sameName_comm name]
    simp
  · next hother =>
    rw [table?]
    congr 1
    funext t
    cases ht : sameName t.name other with
    | false => simp
    | true =>
      rw [sameName_congr ht, sameName_comm]
      simpa using hother

/-! ## Reading the engine's own tables -/

/-- Where neither anyone nor the engine has made a table with keys, no keys can be read. -/
theorem builtIn_eq_error (h : ∀ own ∈ BuiltIn.withKeys, sameName own name.text = false)
    {asked : List String} (hasked : keyColumn ∈ asked) :
    ∃ e, builtIn name asked = .error e := by
  unfold builtIn
  cases hfind : BuiltIn.find? name.text with
  | none => exact ⟨_, rfl⟩
  | some b =>
    by_cases hargs : b.needsArguments = true
    · exact ⟨_, if_pos hargs⟩
    · cases hdemand : demand b.columns asked with
      | error e => exact ⟨e, by simp only [hargs, hdemand]; rfl⟩
      | ok u =>
        -- a table that has what is asked for has keys
        have hkey : keyColumn ∈ b.columns := demand_eq_ok_iff.1 hdemand hasked
        obtain ⟨own, hown, hsame⟩ := BuiltIn.sameName_of_find? hfind hkey
        rw [h own hown] at hsame
        cases hsame

/-- Where the engine has a table with keys, its keys can be read. -/
theorem exists_builtIn_eq_ok {own : String} (hown : own ∈ BuiltIn.withKeys)
    (h : sameName own name.text = true) : ∃ t, builtIn name [keyColumn] = .ok t := by
  obtain ⟨b, hb, hargs, hkey⟩ := BuiltIn.find?_of_mem_withKeys hown h
  have hdemand : demand b.columns [keyColumn] = .ok () := demand_eq_ok_iff.2 (by simpa using hkey)
  refine ⟨.empty b.name .documents, ?_⟩
  simp only [builtIn, hb, hargs, hdemand]
  rfl

/-! ## Reading a table that is there -/

/-- What the engine does not refuse goes on. -/
theorem engine_ok_bind {α β : Type} (x : α) (f : α → Except StoreError β) :
    (engine (.ok x) >>= f) = f x := rfl

theorem free_eq_ok (hfree : db.isLocked = false) : db.free = .ok () := by
  rw [free, hfree]
  rfl

section

variable {t : Table} (htable : db.table? name.text = some t) (hfree : db.isLocked = false)
include htable hfree

/-- The keys of any table can be read. -/
theorem keys_eq_keys : db.keys name none = .ok t.keys := by
  have hsource := source_eq_ok htable t.shape.key_subset_columns
  simp only [keys, hsource, free_eq_ok hfree, engine_ok_bind]

theorem contains_eq_contains (key : String) : db.contains name key = .ok (t.contains key) := by
  have hsource := source_eq_ok htable t.shape.key_subset_columns
  simp only [contains, hsource, free_eq_ok hfree, engine_ok_bind]

variable (hvalues : t.shape.hasValues = true)
include hvalues

/-- All documents are read from the rows in the order of their keys. -/
theorem findAll_eq_decodeRows : db.findAll name = decodeRows t.sorted := by
  have hsource : db.source name [keyColumn, valueColumn] = .ok t :=
    source_eq_ok htable (TableShape.subset_columns hvalues (by decide))
  simp only [findAll, hsource, free_eq_ok hfree, engine_ok_bind]

/-- The document of a key is read from the rows of the key. -/
theorem get_eq_withKey (key : String) :
    db.get name key = match t.withKey key with
      | [] => .ok none
      | [r] => r.decode.map some
      | rows => .error (.duplicateKey key rows.length) := by
  have hsource : db.source name [valueColumn, keyColumn] = .ok t :=
    source_eq_ok htable (TableShape.subset_columns hvalues (by decide))
  simp only [get, hsource, free_eq_ok hfree, engine_ok_bind]
  rcases t.withKey key with _ | ⟨r, _ | ⟨s, rows⟩⟩
  · rfl
  · show (r.decode >>= _) = r.decode.map some
    cases r.decode <;> rfl
  · rfl

end

end Database

end DocSelect
