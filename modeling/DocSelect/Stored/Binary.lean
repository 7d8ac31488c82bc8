import DocSelect.Stored.Path
import DocSelect.Stored.Printer
/-!
# Stored documents in binary form

Besides text the engine takes documents in a binary form. Each part has a header, with its kind and
the length of its contents, and then the contents; those of an array or an object are parts one
behind the other. Such a document is not checked as a whole. A part is given by all bytes from its
start on, and it is looked at only when a walk comes by.

* `BinaryPart.read?` reads the header of a part, `BinaryPart.isDocument` says whether bytes look
  like a document.
* `BinaryPart.parts` are the parts that a walk comes by.
* `BinaryPart.text?` is the text of a part.
-/

namespace DocSelect

/-- A part of a document. -/
structure BinaryPart where
  /-- The kind. -/
  kind : Nat
  /-- The bytes that belong to the part. -/
  contents : List UInt8
  /-- The bytes behind the part. -/
  behind : List UInt8

namespace BinaryPart

/-- The number that bytes spell, the most significant first. -/
def bigEndian (bytes : List UInt8) : Nat := bytes.foldl (fun n b => n * 256 + b.toNat) 0

/-- The kind that the first byte tells, even if the header is malformed. -/
def kindOf : List UInt8 → Nat
  | [] => 0
  | b :: _ => b.toNat % 16

/-- The length of the contents, and the bytes behind the header. -/
def header? : List UInt8 → Option (Nat × List UInt8)
  | [] => none
  | b :: rest =>
    let wide (n : Nat) : Option (Nat × List UInt8) :=
      if rest.length < n then none else some (bigEndian (rest.take n), rest.drop n)
    match b.toNat / 16 with
    | 12 => wide 1
    | 13 => wide 2
    | 14 => wide 4
    | 15 => wide 8
    | n => some (n, rest)

/-- The part at the start of bytes, if its contents end with them or before. -/
def read? (bytes : List UInt8) : Option BinaryPart := do
  let (length, rest) ← header? bytes
  if rest.length < length then none
  else some ⟨kindOf bytes, rest.take length, rest.drop length⟩

/-- The bytes from the contents on. -/
def inside (p : BinaryPart) : List UInt8 := p.contents ++ p.behind

/-- Whether bytes are one part of a kind that there is. Constants have no contents. -/
def isDocument (bytes : List UInt8) : Bool :=
  match read? bytes with
  | some p => p.behind.isEmpty && p.kind ≤ 12 && (2 < p.kind || p.contents.isEmpty)
  | none => false

/-! ### Walking -/

/-- A key: a string of one of four kinds. -/
def key? (bytes : List UInt8) : Option BinaryPart :=
  (read? bytes).filter fun p => 7 ≤ p.kind && p.kind ≤ 10

/-- The value of a key: a part of a kind that there is. -/
def value? (bytes : List UInt8) : Option BinaryPart :=
  (read? bytes).filter fun p => p.kind ≤ 12

/-- The contents of a string; two of the four kinds have escapes. -/
def toBytes (p : BinaryPart) : StringBytes := ⟨p.contents, p.kind == 8 || p.kind == 9⟩

/-- The value of the first entry with a key, in an object that ends `stop` bytes before the last.
The entries before it must be whole. The fuel bounds the number of entries. -/
def memberFrom (key : StringBytes) (stop : Nat) : Nat → List UInt8 → Target (List UInt8)
  | 0, _ => .malformed
  | fuel + 1, s =>
    if s.length < stop then .malformed
    else if s.length = stop then .absent
    else
      match key? s with
      | none => .malformed
      | some k =>
        if k.behind.length ≤ stop then .malformed
        else
          match value? k.behind with
          | none => .malformed
          | some x =>
            if !key.names k.toBytes then memberFrom key stop fuel x.behind
            else if x.behind.length < stop then .malformed
            else .found k.behind

/-- The number of items of an array that ends `stop` bytes before the last. A malformed one counts
and is the last. The fuel bounds their number. -/
def countFrom (stop : Nat) : Nat → List UInt8 → Nat
  | 0, _ => 0
  | fuel + 1, s =>
    if s.length ≤ stop then 0
    else
      match read? s with
      | some p => countFrom stop fuel p.behind + 1
      | none => 1

/-- The item at an index of an array that ends `stop` bytes before the last. The items before it
must be whole. -/
def itemFrom (stop : Nat) : Nat → List UInt8 → Target (List UInt8)
  | n, s =>
    if s.length < stop then .malformed
    else if s.length = stop then .absent
    else
      match n with
      | 0 => .found s
      | n + 1 =>
        match read? s with
        | some p => itemFrom stop n p.behind
        | none => .malformed

/-- The parts that a walk comes by. An array or an object with a malformed header has none. -/
def parts : Parts (List UInt8) where
  member bytes key :=
    match read? bytes with
    | some p =>
      if p.kind = 12 then memberFrom key p.behind.length bytes.length p.inside else .absent
    | none => .absent
  count? bytes :=
    if kindOf bytes = 11 then
      match read? bytes with
      | some p => some (countFrom p.behind.length bytes.length p.inside)
      | none => some 0
    else none
  item bytes n :=
    match read? bytes with
    | some p => itemFrom p.behind.length n p.inside
    | none => .absent

/-! ### Text -/

/-- The text of a part that has no parts; a number has at least one byte. -/
def leafText? (p : BinaryPart) : Option (List UInt8) :=
  let number (text? : Option (List UInt8)) : Option (List UInt8) :=
    if p.contents.isEmpty then none else text?
  match p.kind with
  | 0 => some (StoredText.ascii "null")
  | 1 => some (StoredText.ascii "true")
  | 2 => some (StoredText.ascii "false")
  | 3 | 5 => number (some p.contents)
  | 4 => number (StoredText.hexadecimal? p.contents)
  | 6 => number (some (StoredText.completed p.contents))
  | 7 | 8 => some (StoredText.quoted p.contents)
  | 9 => (StoredText.extended? p.contents.length p.contents).map StoredText.quoted
  | 10 => some (StoredText.quoted (StoredText.raw p.contents))
  | _ => none

/-- The texts of the parts of an array or an object that ends `stop` bytes before the last. The
fuel bounds their number. -/
def textsFrom (text : List UInt8 → Option (List UInt8 × List UInt8)) (stop : Nat) :
    Nat → List UInt8 → Option (List (List UInt8))
  | 0, _ => none
  | fuel + 1, s =>
    if s.length < stop then none
    else if s.length = stop then some []
    else do
      let (x, rest) ← text s
      let xs ← textsFrom text stop fuel rest
      some (x :: xs)

/-- Texts in pairs. -/
def pairs? : List (List UInt8) → Option (List (List UInt8 × List UInt8))
  | [] => some []
  | k :: x :: rest => (pairs? rest).map ((k, x) :: ·)
  | [_] => none

/-- The text of the part at the start of bytes, and the bytes behind it. A constant takes one byte,
whatever its length is, and keys need not be strings. The fuel bounds how deep parts nest. -/
def textFrom : Nat → List UInt8 → Option (List UInt8 × List UInt8)
  | 0, _ => none
  | fuel + 1, s => do
    let p ← read? s
    if p.kind = 11 then
      let xs ← textsFrom (textFrom fuel) p.behind.length s.length p.inside
      some (StoredText.array xs, p.behind)
    else if p.kind = 12 then
      let xs ← textsFrom (textFrom fuel) p.behind.length s.length p.inside
      let entries ← pairs? xs
      some (StoredText.object entries, p.behind)
    else
      let x ← p.leafText?
      some (x, if p.kind ≤ 2 then s.drop 1 else p.behind)

/-- The text of a part that has no bytes behind it. -/
def text? (bytes : List UInt8) : Option (List UInt8) :=
  (textFrom (bytes.length + 1) bytes).map Prod.fst

end BinaryPart

end DocSelect
