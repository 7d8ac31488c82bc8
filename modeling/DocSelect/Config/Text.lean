import DocSelect.Config
import DocSelect.Toml.Document
import DocSelect.Toml.Printer
/-!
# Settings of a store as settings text

* `StoreConfig.ofText?` reads settings; keys that are missing have their defaults, other keys are
  ignored.
* `StoreConfig.toText?` writes them, `StoreConfig.defaultText` is a commented text of the defaults.
-/

namespace DocSelect.StoreConfig

open Toml

/-- The item of a key, or the default. -/
def itemOr {α : Type} (t : Tree) (key : String) (default : α) (read : Item → Option α) :
    Option α :=
  match Keyed.find? key t with
  | none => some default
  | some item => read item

/-- The settings in a table. -/
def ofTable? (t : Tree) : Option StoreConfig := do
  let path ← itemOr t "path" memoryPath fun
    | .string s => some s
    | _ => none
  let busyTimeout ← itemOr t "busy_timeout_ms" 5000 fun
    | .integer n => if 0 ≤ n then some n.toNat else none
    | _ => none
  let regexp ← itemOr t "register_regexp" true fun
    | .bool b => some b
    | _ => none
  some ⟨path, busyTimeout, regexp⟩

/-- The settings in a text. -/
def ofText? (text : String) : Option StoreConfig := do
  let t ← Toml.read? text
  ofTable? t

/-- The text of the settings. An integer of such a text has a sign, so a large timeout has no
text. -/
def toText? (c : StoreConfig) : Option String :=
  if c.busyTimeout < 0x8000000000000000 then
    some <| String.ofList <|
      "path = ".toList ++ stringText c.path.toList ++
        "\nbusy_timeout_ms = ".toList ++ natDigits c.busyTimeout ++
        "\nregister_regexp = ".toList ++ (if c.regexp then "true" else "false").toList ++ ['\n']
  else none

/-- The default settings with comments. -/
def defaultText : String :=
  "# sqkv store configuration\n" ++
  "#\n" ++
  "# SQLite database file. \":memory:\" keeps everything in memory (default).\n" ++
  "path = \":memory:\"\n" ++
  "\n" ++
  "# Milliseconds a statement waits for a locked database before failing.\n" ++
  "busy_timeout_ms = 5000\n" ++
  "\n" ++
  "# Register a regexp() SQL function so \"$regexp\" selectors can run.\n" ++
  "register_regexp = true\n"

end DocSelect.StoreConfig
