import DocSelect.Stored.StringBytes
/-!
# Paths into stored documents

A path is `$` and then steps: a key behind a point, bare or in quotes, or an index in brackets,
counted from the start or, behind `#-`, from the end. A step is looked at only when the walk
reaches it. Documents that were read from text and documents in binary form are walked in the same
way, but of the latter no more is looked at than the walk comes by.

* `Target` is where a walk ends, `Parts` what a walk asks of a document.
* `Parts.lookUp` walks a path.
* `Stored.parts` are the parts of a document that was read from text.
-/

namespace DocSelect

/-- The end of a walk. -/
inductive Target (α : Type)
  /-- The part of the document that the path names. -/
  | found (x : α)
  /-- The document has no such part. -/
  | absent
  /-- The path is malformed. -/
  | badPath
  /-- The document is malformed where the walk has come by. -/
  | malformed

/-- What a walk asks of the parts of a document. -/
structure Parts (α : Type) where
  /-- The value of the first entry with a key, if the part is an object. -/
  member : α → StringBytes → Target α
  /-- The number of items, if the part is an array. -/
  count? : α → Option Nat
  /-- The item at an index of an array. -/
  item : α → Nat → Target α

namespace Parts

/-- A key behind its point, and the steps behind it. A bare key is not empty and reaches to the next
step, a key in quotes to the next quote. -/
def stepKey? : List Char → Option (Spelling × List Char)
  | '"' :: s =>
    let key := s.takeWhile (· != '"')
    match s.dropWhile (· != '"') with
    | _ :: rest => some (⟨key, if '\\' ∈ key then .extended else .none⟩, rest)
    | [] => none
  | s =>
    let key := s.takeWhile fun c => c != '.' && c != '['
    if key.isEmpty then none
    else some (⟨key, .none⟩, s.dropWhile fun c => c != '.' && c != '[')

/-- The value of decimal digits, in 32 bits. -/
def indexValue (ds : List Char) : Nat :=
  ds.foldl (fun n d => (n * 10 + (d.toNat - 48)) % 0x100000000) 0

/-- An index in brackets. -/
inductive Index
  /-- The index, and the steps behind it. -/
  | at (n : Nat) (rest : List Char)
  /-- An index before the first item. -/
  | before
  /-- No index. -/
  | malformed

/-- The closing bracket behind an index. -/
def closeIndex (n : Nat) : List Char → Index
  | ']' :: rest => .at n rest
  | _ => .malformed

/-- The index behind its bracket, in an array of `count` items. -/
def stepIndex (count : Nat) (s : List Char) : Index :=
  match s with
  | '#' :: rest =>
    match rest with
    | '-' :: behind =>
      let ds := behind.takeWhile Char.isDigit
      if ds.isEmpty then .malformed
      else
        let back := indexValue ds
        if count < back then .before
        else closeIndex (count - back) (behind.dropWhile Char.isDigit)
    | _ => closeIndex count rest
  | _ =>
    let ds := s.takeWhile Char.isDigit
    if ds.isEmpty then .malformed else closeIndex (indexValue ds) (s.dropWhile Char.isDigit)

/-- Walks the steps. The fuel bounds their number. -/
def walk {α : Type} (parts : Parts α) : Nat → α → List Char → Target α
  | 0, _, _ => .badPath
  | _ + 1, x, [] => .found x
  | fuel + 1, x, c :: s =>
    if c = '.' then
      match stepKey? s with
      | none => .badPath
      | some (key, rest) =>
        match parts.member x key.toBytes with
        | .found y => walk parts fuel y rest
        | target => target
    else if c = '[' then
      match parts.count? x with
      | none => .absent
      | some count =>
        match stepIndex count s with
        | .at n rest =>
          match parts.item x n with
          | .found y => walk parts fuel y rest
          | target => target
        | .before => .absent
        | .malformed => .badPath
    else .badPath

/-- Walks a path, which ends at a zero character. -/
def lookUp {α : Type} (parts : Parts α) (x : α) (path : List Char) : Target α :=
  match path.takeWhile (· != '\x00') with
  | '$' :: steps => walk parts (steps.length + 1) x steps
  | _ => .badPath

end Parts

namespace Stored

/-- The value of the first entry whose key is the one of a step. -/
def entry? (key : StringBytes) : List (Spelling × Stored) → Option Stored
  | [] => none
  | (k, x) :: rest => if key.names k.toBytes then some x else entry? key rest

/-- The part that is there, if there is one. -/
def ofPart? : Option Stored → Target Stored
  | some x => .found x
  | none => .absent

/-- The parts of a document. -/
def parts : Parts Stored where
  member x key := match x with
    | .object entries => ofPart? <| entry? key entries
    | _ => .absent
  count? x := match x with
    | .array items => some items.length
    | _ => none
  item x n := match x with
    | .array items => ofPart? items[n]?
    | _ => .absent

end Stored

end DocSelect
