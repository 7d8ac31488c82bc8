import DocSelect.Keyed
/-!
# Trees of files

A tree of directories and text files below one root, addressed by names with slashes.

* `FileTree.read` and `FileTree.write` access one file, `FileTree.makeDirectory` makes a directory.
* `FileError.message` is the report of the operating system.
-/

namespace DocSelect

/-- What stands under a path. -/
inductive FileNode
  /-- A directory. -/
  | directory
  /-- A file with its text. -/
  | file (text : String)
  deriving DecidableEq

/-- Why a file cannot be accessed. -/
inductive FileError
  /-- Nothing has this name. -/
  | notFound
  /-- A file stands where a directory is needed. -/
  | notDirectory
  /-- A directory stands where a file is needed. -/
  | isDirectory
  /-- A part of the name is too long. -/
  | nameTooLong
  /-- The name has a zero character. -/
  | zeroCharacter
  deriving DecidableEq

/-- The report of the operating system. -/
def FileError.message : FileError → String
  | .notFound => "No such file or directory (os error 2)"
  | .notDirectory => "Not a directory (os error 20)"
  | .isDirectory => "Is a directory (os error 21)"
  | .nameTooLong => "File name too long (os error 36)"
  | .zeroCharacter => "file name contained an unexpected NUL byte"

/-- The nodes below the root, by their paths. -/
structure FileTree where
  /-- The nodes, the root apart. -/
  nodes : List (List String × FileNode)

namespace FileTree

/-- Nothing but the root. -/
def empty : FileTree := ⟨[]⟩

/-- The node at a path. -/
def node? (t : FileTree) : List String → Option FileNode
  | [] => some .directory
  | path => Keyed.find? path t.nodes

/-- The parts of a name between its slashes. -/
def parts (name : String) : List String :=
  ((name.splitOn "/").filter fun part => part ≠ "" ∧ part ≠ ".")

/-- Whether a name can only stand for a directory. -/
def namesDirectory (name : String) : Bool :=
  match (name.splitOn "/").getLast? with
  | some last => last == "" || last == "."
  | none => false

/-- Follows the parts of a name from the directory `here`; all but the last must be directories. -/
def walk (t : FileTree) : List String → List String → Except FileError (List String)
  | here, [] => .ok here
  | here, part :: rest =>
    if part.utf8ByteSize > 255 then .error .nameTooLong
    else
      let next := if part = ".." then here.dropLast else here ++ [part]
      if rest.isEmpty then .ok next
      else
        match t.node? next with
        | some .directory => walk t next rest
        | some (.file _) => .error .notDirectory
        | none => .error .notFound

/-- The path that a name stands for. -/
def resolve (t : FileTree) (name : String) : Except FileError (List String) :=
  if '\x00' ∈ name.toList then .error .zeroCharacter
  else if name = "" then .error .notFound
  else walk t [] (parts name)

/-- The text of a file. -/
def read (t : FileTree) (name : String) : Except FileError String := do
  let path ← t.resolve name
  match t.node? path with
  | some (.file text) => if namesDirectory name then .error .notDirectory else .ok text
  | some .directory => .error .isDirectory
  | none => .error .notFound

/-- The tree in which a file has the text. -/
def write (t : FileTree) (name text : String) : Except FileError FileTree := do
  let path ← t.resolve name
  match t.node? path with
  | some .directory => .error .isDirectory
  | some (.file _) =>
    if namesDirectory name then .error .notDirectory
    else .ok ⟨Keyed.put path (.file text) t.nodes⟩
  | none =>
    if namesDirectory name then .error .isDirectory
    else .ok ⟨Keyed.put path (.file text) t.nodes⟩

/-- Whether a name stands for something. -/
def contains (t : FileTree) (name : String) : Bool :=
  match t.resolve name with
  | .ok path =>
    match t.node? path with
    | some .directory => true
    | some (.file _) => !namesDirectory name
    | none => false
  | .error _ => false

/-- The tree with a directory; the directories around it are made as well. -/
def makeDirectory (t : FileTree) (name : String) : FileTree :=
  let add (acc : FileTree × List String) (part : String) : FileTree × List String :=
    let path := acc.2 ++ [part]
    match acc.1.node? path with
    | some _ => (acc.1, path)
    | none => (⟨Keyed.put path .directory acc.1.nodes⟩, path)
  ((parts name).foldl add (t, [])).1

end FileTree

end DocSelect
