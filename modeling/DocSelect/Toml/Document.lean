import DocSelect.Toml.Number
/-!
# Settings text: values and documents

A document is a sequence of lines: headers of tables, and keys with their values.

* `keyPath?` reads a dotted key, `value?` a value.
* `read?` reads a whole document.
-/

namespace DocSelect.Toml

/-- How deep values may nest, and how many parts a dotted key may have. -/
def maxDepth : Nat := 79

/-- A character of a key without quotes. -/
def isKeyChar (c : Char) : Bool := c.isAlphanum || c == '_' || c == '-'

/-- One part of a key. -/
def keyPart? (s : List Char) : Option (String × List Char) :=
  match s with
  | [] => none
  | c :: _ =>
    if c = '"' ∨ c = '\'' then do
      let (x, rest) ← lineString? s
      some (String.ofList x, rest)
    else
      let name := s.takeWhile isKeyChar
      if name.isEmpty then none else some (String.ofList name, s.dropWhile isKeyChar)

/-- A dotted key: the parts before the last one, and the last one. The fuel bounds the number of
parts. -/
def keyPathFrom? : Nat → List Char → Option ((List String × String) × List Char)
  | 0, _ => none
  | fuel + 1, s => do
    let (part, s) ← keyPart? (skipBlank s)
    match skipBlank s with
    | '.' :: rest =>
      let ((path, key), rest) ← keyPathFrom? fuel rest
      some ((part :: path, key), rest)
    | rest => some (([], part), rest)

/-- A dotted key. -/
def keyPath? (s : List Char) : Option ((List String × String) × List Char) :=
  keyPathFrom? maxDepth s

/-- The items of an array behind its bracket. The fuel bounds their number. -/
def items? (value : List Char → Option (Item × List Char)) :
    Nat → List Char → Option (List Item × List Char)
  | 0, _ => none
  | fuel + 1, s =>
    match skipLayout s with
    | ']' :: rest => some ([], rest)
    | s => do
      let (x, s) ← value s
      match skipLayout s with
      | ',' :: rest =>
        let (xs, rest) ← items? value fuel rest
        some (x :: xs, rest)
      | ']' :: rest => some ([x], rest)
      | _ => none

/-- A key, an equals sign and a value. -/
def entry? (value : List Char → Option (Item × List Char)) (s : List Char) :
    Option ((List String × String) × Item × List Char) := do
  let (key, s) ← keyPath? s
  let s ← mark? '=' s
  let (x, s) ← value (skipBlank s)
  some (key, x, s)

/-- The entries of a table in braces behind the first brace, added to those already there. The
fuel bounds their number. -/
def entries? (value : List Char → Option (Item × List Char)) :
    Nat → Tree → List Char → Option (Tree × List Char)
  | 0, _, _ => none
  | fuel + 1, t, s => do
    let ((path, key), x, s) ← entry? value s
    let t ← t.insert? path key x
    match skipBlank s with
    | ',' :: rest => entries? value fuel t rest
    | '}' :: rest => some (t, rest)
    | _ => none

/-- A value whose arrays and tables nest at most `depth` deep. -/
def value? (depth : Nat) (s : List Char) : Option (Item × List Char) :=
  match s with
  | [] => none
  | c :: rest =>
    if c = '"' ∨ c = '\'' then do
      let (x, rest) ← string? s
      some (.string (String.ofList x), rest)
    else if c = '[' then
      match depth with
      | 0 => none
      | depth + 1 => do
        let (xs, rest) ← items? (value? depth) (rest.length + 1) rest
        some (.array xs, rest)
    else if c = '{' then
      match depth with
      | 0 => none
      | depth + 1 =>
        match skipBlank rest with
        | '}' :: rest => some (.inline [], rest)
        | rest => do
          let (t, rest) ← entries? (value? depth) (rest.length + 1) [] rest
          some (.inline t, rest)
    else
      match s with
      | 't' :: 'r' :: 'u' :: 'e' :: rest => some (.bool true, rest)
      | 'f' :: 'a' :: 'l' :: 's' :: 'e' :: rest => some (.bool false, rest)
      | _ => (moment? s).or (number? s)
termination_by structural depth

/-- A document as far as it has been read: the whole table, and the path of the last header. -/
structure Draft where
  /-- The whole table. -/
  root : Tree
  /-- The table that the last header opened. -/
  header : List String

/-- A header behind its first bracket. -/
def header? (d : Draft) : List Char → Option (Draft × List Char)
  | '[' :: s => do
    let ((path, key), s) ← keyPath? s
    let s ← mark? ']' s
    let s ← mark? ']' s
    let root ← d.root.openElement? path key
    some (⟨root, path ++ [key]⟩, s)
  | s => do
    let ((path, key), s) ← keyPath? s
    let s ← mark? ']' s
    let root ← d.root.open? path key
    some (⟨root, path ++ [key]⟩, s)

/-- A line that is not empty. -/
def line? (d : Draft) : List Char → Option (Draft × List Char)
  | '[' :: s => header? d s
  | s => do
    let ((path, key), x, s) ← entry? (value? maxDepth) s
    let root ← d.root.insertIn? d.header path key x
    some (⟨root, d.header⟩, s)

/-- The lines of a document. The fuel bounds their number. -/
def lines? : Nat → Draft → List Char → Option Draft
  | 0, _, _ => none
  | fuel + 1, d, s =>
    match skipLayout s with
    | [] => some d
    | s => do
      let (d, s) ← line? d s
      let s ← lineEnd? s
      lines? fuel d s

/-- Drops a mark of the byte order. -/
def dropByteOrderMark : List Char → List Char
  | c :: s => if c = '\uFEFF' then s else c :: s
  | [] => []

/-- Reads a document. -/
def read? (text : String) : Option Tree := do
  let s := unifyLineEnds (dropByteOrderMark text.toList)
  let d ← lines? (s.length + 1) ⟨[], []⟩ s
  some d.root

end DocSelect.Toml
