import DocSelect.Json.Printer
import DocSelect.Typed.Record
/-!
# Settings of a store

* `StoreConfig` names the database, how long a statement waits for a lock, and whether regular
  expressions may be used.
* `StoreConfig.decode` and `StoreConfig.encode` are its JSON text; missing fields have defaults.
-/

namespace DocSelect

/-- The path of a database that lives in memory only. -/
def memoryPath : String := ":memory:"

/-- The settings of a store. -/
structure StoreConfig where
  /-- The file of the database, or `memoryPath`. -/
  path : String := memoryPath
  /-- How long a statement waits for a lock, in milliseconds; an unsigned integer of 64 bits. -/
  busyTimeout : Nat := 5000
  /-- Whether the match of a regular expression is available. -/
  regexp : Bool := true
  deriving DecidableEq

namespace StoreConfig

instance : Inhabited StoreConfig := ⟨{}⟩

/-- Whether the database lives in memory only. -/
def inMemory (c : StoreConfig) : Bool := c.path == memoryPath

/-- The default settings with another path. -/
def withPath (path : String) : StoreConfig := { path := path }

/-- The settings as a record. -/
def shape : RecordShape where
  title := "struct StoreConfig"
  fields := [("path", .string), ("busy_timeout_ms", .natural), ("register_regexp", .flag)]
  optional := true

/-- The settings of the fields that are there. -/
def ofFields (values : List (String × FieldValue)) : StoreConfig where
  path := match Keyed.find? "path" values with
    | some (.string s) => s
    | _ => memoryPath
  busyTimeout := match Keyed.find? "busy_timeout_ms" values with
    | some (.natural n) => n
    | _ => 5000
  regexp := match Keyed.find? "register_regexp" values with
    | some (.flag b) => b
    | _ => true

/-- Reads a text that holds settings. -/
def decode (text : String) : Except String StoreConfig :=
  Typed.report text (Typed.whole (fun s => do
    let (values, rest) ← Typed.record shape s
    .ok (ofFields values, rest)) text)

/-- The settings as JSON text. -/
def encode (c : StoreConfig) : String :=
  String.ofList <|
    "\x7b\"path\":".toList ++ Json.quote c.path ++
      ",\"busy_timeout_ms\":".toList ++ natDigits c.busyTimeout ++
      ",\"register_regexp\":".toList ++ (Json.bool c.regexp).chars ++ ['}']

end StoreConfig

end DocSelect
