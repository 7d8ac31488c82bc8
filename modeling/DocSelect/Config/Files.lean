import DocSelect.Config.Text
import DocSelect.FileTree
/-!
# Settings of a store in files

* `StoreConfig.load` reads settings from a file, `StoreConfig.save` writes them to one.
* `StoreConfig.saveDefault` writes the default settings unless the name is taken.
-/

namespace DocSelect

/-- Why settings cannot be read or written. -/
inductive ConfigError
  /-- The text is malformed. -/
  | malformed
  /-- The text of a file is malformed. -/
  | malformedFile (name : String)
  /-- The settings have no text. -/
  | noText
  /-- A file cannot be read. -/
  | unreadable (name : String) (e : FileError)
  /-- A file cannot be written. -/
  | unwritable (name : String) (e : FileError)
  /-- The file of the defaults cannot be written. -/
  | unwritableDefault (name : String) (e : FileError)
  deriving DecidableEq

/-- The error in words; what is wrong with a text is not told. -/
def ConfigError.message : ConfigError → String
  | .malformed => "config error: Failed to parse config"
  | .malformedFile name => "config error: Failed to parse config file '" ++ name ++ "'"
  | .noText => "config error: Failed to serialize config"
  | .unreadable name e =>
    "config error: Failed to read config file '" ++ name ++ "': " ++ e.message
  | .unwritable name e =>
    "config error: Failed to write config file '" ++ name ++ "': " ++ e.message
  | .unwritableDefault name e =>
    "config error: Failed to write default config file '" ++ name ++ "': " ++ e.message

namespace StoreConfig

/-- The settings in a text. -/
def ofText (text : String) : Except ConfigError StoreConfig :=
  match ofText? text with
  | some c => .ok c
  | none => .error .malformed

/-- The settings in a file. -/
def load (t : FileTree) (name : String) : Except ConfigError StoreConfig :=
  match t.read name with
  | .error e => .error (.unreadable name e)
  | .ok text =>
    match ofText? text with
    | some c => .ok c
    | none => .error (.malformedFile name)

/-- Writes the settings to a file. -/
def save (c : StoreConfig) (t : FileTree) (name : String) : Except ConfigError FileTree :=
  match c.toText? with
  | none => .error .noText
  | some text => (t.write name text).mapError (.unwritable name)

/-- Writes the default settings to a file, unless something has its name. -/
def saveDefault (t : FileTree) (name : String) : Except ConfigError FileTree :=
  if t.contains name then .ok t
  else (t.write name defaultText).mapError (.unwritableDefault name)

end StoreConfig

end DocSelect
