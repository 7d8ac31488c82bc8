import DocSelect.Keyed
import DocSelect.Numeric.FloatText
/-!
# Settings text: tables

A settings text describes a table of items. Tables come into being in several ways, and how one
did decides what may be added to it later.

* `Item` is what a key of a table can name.
* `Tree.insert?` adds an item under a dotted key, `Tree.open?` and `Tree.openElement?` are the
  two kinds of headers. Each fails where the text would define something twice.
-/

namespace DocSelect.Toml

/-- How a table came into being. -/
inductive Origin
  /-- By a header of its own, or as an element of an array of tables. -/
  | header
  /-- By a header of a table inside it. -/
  | implied
  /-- By a dotted key. -/
  | dotted
  deriving DecidableEq

/-- What a key of a table names. -/
inductive Item
  /-- A string. -/
  | string (s : String)
  /-- An integer. -/
  | integer (n : Int)
  /-- A binary number. -/
  | float (x : FloatValue)
  /-- A truth value. -/
  | bool (b : Bool)
  /-- A date, a time or both, as it was written. -/
  | moment (text : String)
  /-- An array of values. -/
  | array (items : List Item)
  /-- A table in braces, to which nothing can be added. -/
  | inline (entries : List (String × Item))
  /-- A table. -/
  | table (origin : Origin) (entries : List (String × Item))
  /-- An array of tables. -/
  | tables (elements : List (List (String × Item)))

/-- The entries of a table. -/
abbrev Tree := List (String × Item)

namespace Tree

/-- Changes the table at a path. Tables that are missing on the way are made, by `origin`. A
dotted key does not reach into a table that has a header. In an array of tables the way goes on in
the last element. -/
def alter? (origin : Origin) (change : Origin → Tree → Option Tree) :
    List String → Origin → Tree → Option Tree
  | [], self, t => change self t
  | key :: path, _, t =>
    match Keyed.find? key t with
    | none => do
      let inner ← alter? origin change path origin []
      some (Keyed.put key (.table origin inner) t)
    | some (.table o inner) =>
      if origin = .dotted ∧ o = .header then none
      else do
        let inner ← alter? origin change path o inner
        some (Keyed.put key (.table o inner) t)
    | some (.tables elements) => do
      let last ← elements.getLast?
      let inner ← alter? origin change path .header last
      some (Keyed.put key (.tables (elements.dropLast ++ [inner])) t)
    | some _ => none

/-- Adds an item under a dotted key: `path` and then `key`. A simple key must not add to a table
that dotted keys made, a dotted one only to such a table. -/
def insert? (path : List String) (key : String) (item : Item) (t : Tree) : Option Tree :=
  alter? .dotted (fun self t =>
    if (self = .dotted) ≠ (path ≠ []) then none
    else if (Keyed.find? key t).isSome then none
    else some (Keyed.put key item t)) path .header t

/-- Opens a table by its header. A table that only headers inside it have made so far is opened
with what it holds. -/
def open? (path : List String) (key : String) (t : Tree) : Option Tree :=
  alter? .implied (fun _ t =>
    match Keyed.find? key t with
    | none => some (Keyed.put key (.table .header []) t)
    | some (.table .implied inner) => some (Keyed.put key (.table .header inner) t)
    | some _ => none) path .header t

/-- Opens a new element of an array of tables by its header. -/
def openElement? (path : List String) (key : String) (t : Tree) : Option Tree :=
  alter? .implied (fun _ t =>
    match Keyed.find? key t with
    | none => some (Keyed.put key (.tables [[]]) t)
    | some (.tables elements) => some (Keyed.put key (.tables (elements ++ [[]])) t)
    | some _ => none) path .header t

/-- Adds an item to the table that the last header opened. -/
def insertIn? (header : List String) (path : List String) (key : String) (item : Item)
    (t : Tree) : Option Tree :=
  alter? .implied (fun _ t => insert? path key item t) header .header t

end Tree

end DocSelect.Toml
