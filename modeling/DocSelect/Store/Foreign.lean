import DocSelect.Store.Database
/-!
# Changes from outside

Another connection to the same file can make tables of other shapes, add rows that hold no
documents, and lock the file.

* `Database.foreignTable`, `Database.foreignRow` and `Database.setLock` are these changes.
-/

namespace DocSelect.Database

/-- Another connection makes a table. -/
def foreignTable (db : Database) (name : String) (shape : TableShape) :
    Except EngineError Database :=
  if !db.onDisk then .ok db
  else if (db.table? name).isSome then .error (.tableExists name)
  else .ok { db with tables := db.tables ++ [.empty name shape] }

/-- Another connection adds a row, of which the column makes what it stores. -/
def foreignRow (db : Database) (name key : String) (c : Cell) : Except EngineError Database :=
  match if db.onDisk then db.table? name else none with
  | none => .error (.noTable name)
  | some t =>
    if !t.shape.hasValues then .error (.noColumnNamed name valueColumn)
    else do
      let u ← t.insert ⟨key, t.shape.stored c⟩
      .ok (db.setTable u)

/-- Another connection locks the file, or lets it go. -/
def setLock (db : Database) (locked : Bool) : Database :=
  { db with isLocked := locked && db.onDisk }

end DocSelect.Database
