import DocSelect.Selector.Error
import DocSelect.Sql.JsonFunction
import DocSelect.Text.Quoted
/-!
# Errors of the store

* `StoreError` says why an operation failed; `StoreError.kind` names the kind and
  `StoreError.message` words the error.
-/

namespace DocSelect

/-- Why an operation on a store failed. -/
inductive StoreError
  /-- The selector is malformed. -/
  | selector (e : SelectorError)
  /-- The engine refused a statement. -/
  | engine (e : EngineError)
  /-- The file of the database cannot be opened. -/
  | cannotOpen (path : String)
  /-- The path of the database has a zero character at a position. -/
  | zeroInPath (position : Nat)
  /-- A row does not hold a document. -/
  | corruptRecord (key reason : String)
  /-- A key has several rows. -/
  | duplicateKey (key : String) (count : Nat)
  /-- A row could not be added because the table does not allow it. -/
  | duplicateOperation (key : String)
  /-- A name is not one of a table. -/
  | invalidTableName (name : String)
  /-- A document has a key that is no string. -/
  | keyNotString
  deriving DecidableEq

namespace StoreError

/-- The name of the kind of error. -/
def kind : StoreError → String
  | .selector e => e.kind
  | .engine _ | .cannotOpen _ | .zeroInPath _ => "Sqlite"
  | .corruptRecord _ _ => "CorruptRecord"
  | .duplicateKey _ _ => "DuplicateKey"
  | .duplicateOperation _ => "DuplicateOperation"
  | .invalidTableName _ => "InvalidTableName"
  | .keyNotString => "Serialization"

/-- The error in words. -/
def message : StoreError → String
  | .selector e => e.message
  | .engine e => "SQLite error: " ++ e.message
  | .cannotOpen path => "SQLite error: unable to open database file: " ++ path
  | .zeroInPath position =>
    "SQLite error: nul byte found in provided data at position: " ++ toString position
  | .corruptRecord key reason => "corrupt record for key " ++ key ++ ": " ++ reason
  | .duplicateKey key count => "found " ++ toString count ++ " rows for key " ++ key
  | .duplicateOperation key => "duplicate insert for key " ++ key
  | .invalidTableName name => "invalid table name: " ++ quotedText name
  | .keyNotString => "serialization error: key must be a string"

end StoreError

end DocSelect
