import DocSelect.Sql.Predicate
import DocSelect.Store.Error
/-!
# Tables of the engine's own

Under some names the engine has a table of its own, for as long as nobody has made one of the name.
It can be read if it has the columns that a statement asks for, and has no rows then; it can neither
be written to nor removed.

* `BuiltIn.find?` is such a table by its name.
* `demand` fails if a column is missing that a statement asks for.
-/

namespace DocSelect

/-- Whether two names differ at most in the case of ASCII letters. -/
def sameName (a b : String) : Bool := a.toList.map Char.toLower == b.toList.map Char.toLower

/-- The column of the keys. -/
def keyColumn : String := "key"

/-- Fails with the first column that a statement asks for and that is not there. -/
def demand (there asked : List String) : Except EngineError Unit :=
  match asked.find? fun c => !there.contains c with
  | some c => .error (.noColumn c)
  | none => .ok ()

theorem demand_eq_ok_iff {there asked : List String} :
    demand there asked = .ok () ↔ asked ⊆ there := by
  unfold demand
  cases h : asked.find? fun c => !there.contains c with
  | none =>
    simp only [List.find?_eq_none, Bool.not_eq_true', Bool.not_eq_false, List.contains_iff_mem] at h
    simp only [true_iff]
    exact fun c hc => h c hc
  | some c =>
    have hmissing := List.find?_some h
    have hasked := List.mem_of_find?_eq_some h
    simp only [Bool.not_eq_true', List.contains_eq_mem, decide_eq_false_iff_not] at hmissing
    simp only [reduceCtorEq, false_iff]
    exact fun hsubset => hmissing (hsubset hasked)

/-- A table of the engine's own. -/
structure BuiltIn where
  /-- The name in the reports of the engine. -/
  name : String
  /-- Its columns among those of a table of documents. -/
  columns : List String
  /-- Whether it cannot be read without arguments. -/
  needsArguments : Bool

namespace BuiltIn

/-- The tables of functions and of the statistics of the file. -/
def functions : List BuiltIn :=
  [⟨"json_each", [keyColumn, valueColumn], false⟩, ⟨"json_tree", [keyColumn, valueColumn], false⟩,
    ⟨"dbstat", [], false⟩, ⟨"fts3tokenize", [], false⟩, ⟨"fts4aux", [], true⟩]

/-- The settings that are tables. -/
def settings : List String :=
  ["analysis_limit", "application_id", "auto_vacuum", "automatic_index", "busy_timeout",
    "cache_size", "cache_spill", "cell_size_check", "checkpoint_fullfsync", "collation_list",
    "compile_options", "count_changes", "data_version", "database_list", "default_cache_size",
    "defer_foreign_keys", "empty_result_callbacks", "encoding", "foreign_key_check",
    "foreign_key_list", "foreign_keys", "freelist_count", "full_column_names", "fullfsync",
    "function_list", "hard_heap_limit", "ignore_check_constraints", "index_info", "index_list",
    "index_xinfo", "integrity_check", "journal_mode", "journal_size_limit", "legacy_alter_table",
    "locking_mode", "max_page_count", "module_list", "optimize", "page_count", "page_size",
    "pragma_list", "query_only", "quick_check", "read_uncommitted", "recursive_triggers",
    "reverse_unordered_selects", "schema_version", "secure_delete", "short_column_names",
    "soft_heap_limit", "synchronous", "table_info", "table_list", "table_xinfo", "temp_store",
    "threads", "trusted_schema", "user_version", "writable_schema"]

/-- The table of a setting, under a name of it. -/
def ofSetting (name setting : String) : BuiltIn :=
  ⟨name, if setting = "index_xinfo" then [keyColumn] else [], false⟩

/-- The table of a name. Reports spell the name of a setting as the statement does. -/
def find? (name : String) : Option BuiltIn :=
  (functions.find? fun b => sameName b.name name).orElse fun _ =>
    (settings.find? fun s => sameName ("pragma_" ++ s) name).map (ofSetting name)

end BuiltIn

end DocSelect
