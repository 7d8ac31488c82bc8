import DocSelect.Config
import DocSelect.FileTree
import DocSelect.Store.Table
/-!
# Databases

A database has settings and tables. Names of tables are looked up without regard to the case of
ASCII letters; the first spelling is kept. Where there is no table of a name, the engine may have
one of its own. Someone else may hold a lock on a database in a file.

* `TableName` is a name that a table of documents may have.
* `Database.connect` opens a database, `Database.reopen` opens it once more.
* `Database.source` and `Database.target` are the tables that statements read and change.
* `Database.createTable`, `Database.dropTable` and `Database.tableNames` manage the tables.
-/

namespace DocSelect

/-- Whether a name starts with a letter or an underscore, has only these and digits in it, and is
not reserved. -/
def isTableName (name : List Char) : Bool :=
  (match name with
    | c :: rest => (c.isAlpha || c == '_') && rest.all fun c => c.isAlphanum || c == '_'
    | [] => false) &&
  !("sqlite_".toList.isPrefixOf (name.map Char.toLower))

/-- The name of a table of documents. -/
structure TableName where
  /-- The name. -/
  text : String
  /-- It is well-formed. -/
  wellFormed : isTableName text.toList = true
  deriving DecidableEq

/-- The name that a text spells. -/
def TableName.ofString (text : String) : Except StoreError TableName :=
  if h : isTableName text.toList = true then .ok ⟨text, h⟩ else .error (.invalidTableName text)

/-- A database. -/
structure Database where
  /-- The settings. -/
  config : StoreConfig
  /-- Whether the tables live in a file. -/
  onDisk : Bool
  /-- The tables, in the order of their creation. -/
  tables : List Table
  /-- Whether someone else has locked the file. -/
  isLocked : Bool

/-- Why a database cannot be opened. -/
inductive OpenError
  /-- The engine refuses the path. -/
  | refused (e : StoreError)
  /-- The time to wait for a lock is past what the engine can wait. -/
  | timeoutTooLong
  deriving DecidableEq

namespace Database

/-- The longest time to wait for a lock, in milliseconds. -/
def maxTimeout : Nat := 0x7fffffff

/-- Sets the time to wait on a new database. -/
def withTimeout (db : Database) : Except OpenError Database :=
  if maxTimeout < db.config.busyTimeout then .error .timeoutTooLong else .ok db

/-- A new database in memory, whatever the path in the settings is. -/
def inMemory (c : StoreConfig) : Except OpenError Database :=
  withTimeout { config := c, onDisk := false, tables := [], isLocked := false }

/-- Whether a file can have a path, given that there are no directories. -/
def canHold (path : String) : Bool :=
  match FileTree.empty.resolve path with
  | .ok parts => !parts.isEmpty && !FileTree.namesDirectory path
  | .error _ => false

/-- A new database where the settings say. The empty path stands for a file that nobody else can
open. -/
def connect (c : StoreConfig) : Except OpenError Database :=
  let before := c.path.toList.takeWhile (· != '\x00')
  if c.inMemory ∨ c.path = "" then inMemory c
  else if before.length < c.path.toList.length then
    .error (.refused (.zeroInPath (utf8Length before)))
  else if !canHold c.path then .error (.refused (.cannotOpen c.path))
  else withTimeout { config := c, onDisk := true, tables := [], isLocked := false }

/-- The same file opened once more, with the default settings. What is not in a file is lost. -/
def reopen (db : Database) : Except OpenError Database := do
  let fresh ← Database.connect (StoreConfig.withPath db.config.path)
  .ok (if db.onDisk then { fresh with tables := db.tables, isLocked := db.isLocked } else fresh)

/-- The table of a name. -/
def table? (db : Database) (name : String) : Option Table :=
  db.tables.find? fun t => sameName t.name name

/-- The table of the engine's own that a statement reads where nobody has made one. It has no
rows. -/
def builtIn (name : TableName) (asked : List String) : Except EngineError Table :=
  match BuiltIn.find? name.text with
  | some b =>
    if b.needsArguments then .error (.noArguments b.name)
    else (demand b.columns asked).map fun _ => .empty b.name .documents
  | none => .error (.noTable name.text)

/-- The table that a statement reads, if it has the columns that the statement asks for. -/
def source (db : Database) (name : TableName) (asked : List String) : Except EngineError Table :=
  match db.table? name.text with
  | some t => (demand t.shape.columns asked).map fun _ => t
  | none => builtIn name asked

/-- A statement reads the table of the name if that has the columns. -/
theorem source_eq_ok {db : Database} {name : TableName} {t : Table} {asked : List String}
    (htable : db.table? name.text = some t) (hasked : asked ⊆ t.shape.columns) :
    db.source name asked = .ok t := by
  unfold source
  rw [htable]
  show (demand t.shape.columns asked).map _ = _
  rw [demand_eq_ok_iff.2 hasked]
  rfl

/-- Why a statement cannot change a table that nobody has made; `refusal` is for a table of the
engine's own. -/
def untouchable (name : TableName) (refusal : String → EngineError) : EngineError :=
  match BuiltIn.find? name.text with
  | some b => if b.needsArguments then .noArguments b.name else refusal b.name
  | none => .noTable name.text

/-- The table that a statement changes. -/
def target (db : Database) (name : TableName) (refusal : String → EngineError) :
    Except EngineError Table :=
  match db.table? name.text with
  | some t => .ok t
  | none => .error (untouchable name refusal)

theorem target_eq_ok {db : Database} {name : TableName} {t : Table}
    {refusal : String → EngineError} (htable : db.table? name.text = some t) :
    db.target name refusal = .ok t := by
  rw [target, htable]

/-- Fails if someone else has locked the file. -/
def free (db : Database) : Except EngineError Unit :=
  if db.isLocked then .error .locked else .ok ()

/-- The database with another table in the place of the one of the same name. -/
def setTable (db : Database) (t : Table) : Database :=
  { db with tables := db.tables.map fun u => if sameName u.name t.name then t else u }

/-- Carries out a part of an operation that only the engine can refuse. -/
def engine {α : Type} (r : Except EngineError α) : Except StoreError α := r.mapError .engine

/-- Makes a table of documents unless there is a table of the name. -/
def createTable (db : Database) (name : TableName) : Except StoreError Database := do
  engine db.free
  .ok (if (db.table? name.text).isSome then db
    else { db with tables := db.tables ++ [.empty name.text .documents] })

/-- Removes a table. -/
def dropTable (db : Database) (name : TableName) : Except StoreError Database := do
  let _ ← engine (db.target name .notRemovable)
  engine db.free
  .ok { db with tables := db.tables.filter fun t => !sameName t.name name.text }

/-- Adds a name to names in order. -/
def insertName (name : String) : List String → List String
  | [] => [name]
  | n :: rest => if compareText name n = .lt then name :: n :: rest else n :: insertName name rest

/-- The names of the tables, in order. -/
def tableNames (db : Database) : Except StoreError (List String) := do
  engine db.free
  .ok ((db.tables.map Table.name).foldl (fun acc n => insertName n acc) [])

/-- How a database is shown. -/
def shown (db : Database) : String :=
  "Database \x7b path: " ++ quotedText db.config.path ++ ", .. \x7d"

/-- How a table of a database is shown. -/
def shownTable (db : Database) (name : TableName) : String :=
  "DocumentStore \x7b db: " ++ db.shown ++ ", table: " ++ quotedText name.text ++ ", quoted: " ++
    quotedText ("\"" ++ name.text ++ "\"") ++ " \x7d"

end Database

end DocSelect
