import DocSelect.Selector.Compile
import DocSelect.Store.Database
/-!
# Documents in a table

The operations on one key, and the listings. A document is stored as its text and read back from it.

* `Database.put`, `Database.update` and `Database.delete` change the documents.
* `Database.get`, `Database.contains` and `Database.keys` look at them.
* `Database.findAll` and `Database.find` list documents in the order of their keys. What cannot be
  read back fails the whole listing.
-/

namespace DocSelect

/-- The document of a row. -/
def Row.decode (r : Row) : Except StoreError Json :=
  match r.value.decode with
  | .ok d => .ok d
  | .error reason => .error (.corruptRecord r.key reason)

/-- The documents of rows; the first row without one decides. -/
def decodeRows : List Row → Except StoreError (List Json)
  | [] => .ok []
  | r :: rest => do
    let d ← r.decode
    let ds ← decodeRows rest
    .ok (d :: ds)

/-- Whether a text has another text in it. -/
def containsText (part : List Char) : List Char → Bool
  | [] => part.isEmpty
  | c :: s => part.isPrefixOf (c :: s) || containsText part s

/-- Whether the report of the engine speaks of malformed JSON. It quotes the path or the pattern
that is at fault, so these may speak of it too. -/
def EngineError.mentionsMalformedJson : EngineError → Bool
  | .badPattern pattern => containsText "malformed JSON".toList pattern.toList
  | e => containsText "malformed JSON".toList e.message.toList

/-- Whether a row holds something else than text that is JSON. -/
def Row.isSuspect (r : Row) : Bool :=
  match r.value with
  | .text s => !isValidJson s.toList
  | _ => true

namespace Database

/-- Overwrites the document of a key, if the key is there; tells whether it is. -/
def update (db : Database) (name : TableName) (key : String) (d : Json) :
    Except StoreError (Database × Bool) := do
  let t ← engine (db.target name .notWritable)
  engine (demand t.shape.columns [valueColumn])
  engine db.free
  let u ← engine (t.update key (.ofJson d))
  .ok (db.setTable u, t.contains key)

/-- Adds the document of a new key. -/
def add (db : Database) (name : TableName) (key : String) (d : Json) :
    Except StoreError Database := do
  let t ← engine (db.target name .notWritable)
  if !t.shape.hasValues then .error (.engine (.noColumnNamed name.text valueColumn))
  else
    match t.insert ⟨key, .ofJson d⟩ with
    | .ok u => .ok (db.setTable u)
    | .error _ => .error (.duplicateOperation key)

/-- Whether a key is there. -/
def contains (db : Database) (name : TableName) (key : String) : Except StoreError Bool := do
  let t ← engine (db.source name [keyColumn])
  engine db.free
  .ok (t.contains key)

/-- Stores the document of a key. -/
def put (db : Database) (name : TableName) (key : String) (d : Json) :
    Except StoreError Database := do
  if ← db.contains name key then
    let r ← db.update name key d
    .ok r.1
  else db.add name key d

/-- The document of a key, if it is there. -/
def get (db : Database) (name : TableName) (key : String) : Except StoreError (Option Json) := do
  let t ← engine (db.source name [valueColumn, keyColumn])
  engine db.free
  match t.withKey key with
  | [] => .ok none
  | [r] => do
    let d ← r.decode
    .ok (some d)
  | rows => .error (.duplicateKey key rows.length)

/-- Removes a key; tells whether it was there. -/
def delete (db : Database) (name : TableName) (key : String) :
    Except StoreError (Database × Bool) := do
  let t ← engine (db.target name .notWritable)
  engine db.free
  .ok (db.setTable (t.delete key), t.contains key)

/-- The keys that match a pattern. -/
def matchingKeys (pattern : SqlValue) : List String → Except EngineError (List String)
  | [] => .ok []
  | k :: rest => do
    let t ← (SqlValue.ofString k).likeness Wildcard.like pattern
    let ks ← matchingKeys pattern rest
    .ok (if t = some true then k :: ks else ks)

/-- The keys in order, or those that match a pattern. -/
def keys (db : Database) (name : TableName) (pattern : Option String) :
    Except StoreError (List String) := do
  let t ← engine (db.source name [keyColumn])
  engine db.free
  match pattern with
  | none => .ok t.keys
  | some p => engine (matchingKeys (.ofString p) t.keys)

/-- All documents in the order of their keys. -/
def findAll (db : Database) (name : TableName) : Except StoreError (List Json) := do
  let t ← engine (db.source name [keyColumn, valueColumn])
  engine db.free
  decodeRows t.sorted

/-- The rows that a predicate keeps. -/
def matchingRows (db : Database) (name : TableName) (b : BoundPredicate) :
    Except EngineError (List Row) := do
  b.check
  let t ← db.source name [keyColumn, valueColumn]
  let e ← b.condition
  if e.uses .regexp ∧ !db.config.regexp then .error (.noFunction "REGEXP")
  else
    db.free
    t.keep e

/-- The failure of a search. If the engine speaks of malformed JSON, the first row that is at fault
is named. -/
def searchError (db : Database) (name : TableName) (e : EngineError) : StoreError :=
  if e.mentionsMalformedJson then
    match (db.table? name.text).bind fun t => t.sorted.find? Row.isSuspect with
    | some r => .corruptRecord r.key e.message
    | none => .engine e
  else .engine e

/-- The documents that a predicate keeps, in the order of their keys. -/
def findPredicate (db : Database) (name : TableName) (b : BoundPredicate) :
    Except StoreError (List Json) :=
  match db.matchingRows name b with
  | .ok rows => decodeRows rows
  | .error e => .error (db.searchError name e)

/-- The documents that a selector selects, in the order of their keys. -/
def findSelector (db : Database) (name : TableName) (s : Selector) :
    Except StoreError (List Json) :=
  db.findPredicate name s.toPredicate.bound

/-- The documents that the selector in a document selects, in the order of their keys. -/
def find (db : Database) (name : TableName) (d : Json) : Except StoreError (List Json) :=
  match Selector.compileBound d with
  | .ok b => db.findPredicate name b
  | .error e => .error (.selector e)

end Database

end DocSelect
