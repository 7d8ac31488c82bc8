import DocSelect.Typed.Reader
import DocSelect.Typed.Skip
/-!
# Records and variants in JSON text

A record is an object with known fields, or an array of their values in order. Unknown fields are
skipped, a field must not occur twice. A variant is its bare name, or an object whose only key is
its name.

* `RecordShape` lists the fields of a record and says whether they may be missing.
* `Typed.record` reads a record, `Typed.variant` the name of a variant with its contents.
-/

namespace DocSelect

/-- The type of a field. -/
inductive FieldType
  /-- A string. -/
  | string
  /-- A truth value. -/
  | flag
  /-- An unsigned integer. -/
  | natural
  deriving DecidableEq

/-- The value of a field. -/
inductive FieldValue
  /-- A string. -/
  | string (s : String)
  /-- A truth value. -/
  | flag (b : Bool)
  /-- An unsigned integer. -/
  | natural (n : Nat)
  deriving DecidableEq

/-- The fields of a record. -/
structure RecordShape where
  /-- How the record is called in reports. -/
  title : String
  /-- The fields, in order. -/
  fields : List (String × FieldType)
  /-- Whether fields may be missing. -/
  optional : Bool

namespace Typed

open Json Json.Read

/-- A value of a field's type. -/
def fieldValue : FieldType → List Char → Except Failure (FieldValue × List Char)
  | .string, s => do
    let (x, rest) ← string "a string" s
    .ok (.string x, rest)
  | .flag, s => do
    let (x, rest) ← flag s
    .ok (.flag x, rest)
  | .natural, s => do
    let (x, rest) ← natural s
    .ok (.natural x, rest)

/-- One entry at its key: `seen` with the new field, or as it was if the field is unknown. -/
def fieldEntry (fields : List (String × FieldType)) (seen : List (String × FieldValue)) :
    List Char → Except Failure (List (String × FieldValue) × List Char)
  | '"' :: rest => do
    let (name, rest) ← Json.Read.string rest
    match Keyed.find? name fields with
    | none =>
      let rest ← colon rest
      let rest ← skip rest
      .ok (seen, rest)
    | some type =>
      if (Keyed.find? name seen).isSome then failAt (.duplicateField name) (skipBlank rest)
      else
        let rest ← colon rest
        let (x, rest) ← fieldValue type rest
        .ok (seen ++ [(name, x)], rest)
  | s => failNext .keyNotString s

/-- The entries behind the first one. The fuel bounds the number of commas. -/
def moreFields (fields : List (String × FieldType)) :
    Nat → List (String × FieldValue) → List Char →
      Except Failure (List (String × FieldValue) × List Char)
  | 0, _, s => failNext .endInObject s
  | fuel + 1, seen, s =>
    match skipBlank s with
    | [] => failNext .endInObject []
    | c :: rest =>
      if c = '}' then .ok (seen, rest)
      else if c = ',' then
        match skipBlank rest with
        | [] => failNext .endInValue []
        | d :: rest =>
          if d = '}' then failNext .trailingComma (d :: rest)
          else do
            let (seen, rest) ← fieldEntry fields seen (d :: rest)
            moreFields fields fuel seen rest
      else failNext .expectedObjectEnd (c :: rest)

/-- The entries of a record, behind its opening brace. -/
def fieldsOfMap (fields : List (String × FieldType)) (s : List Char) :
    Except Failure (List (String × FieldValue) × List Char) :=
  match skipBlank s with
  | [] => failNext .endInObject []
  | c :: rest =>
    if c = '}' then .ok ([], rest)
    else do
      let (seen, rest) ← fieldEntry fields [] (c :: rest)
      moreFields fields (rest.length + 1) seen rest

/-- The end of an array whose fields have all been read. -/
def listEnd (s : List Char) : Except Failure (List Char) :=
  match skipBlank s with
  | [] => failNext .endInList []
  | c :: rest =>
    if c = ']' then .ok rest
    else if c = ',' then
      match skipBlank rest with
      | [] => failNext .trailingCharacters []
      | d :: rest =>
        if d = ']' then failNext .trailingComma (d :: rest)
        else failNext .trailingCharacters (d :: rest)
    else failNext .trailingCharacters (c :: rest)

/-- Whether another item follows, and the text at it. -/
def nextItem (first : Bool) (s : List Char) : Except Failure (Bool × List Char) :=
  match skipBlank s with
  | [] => failNext .endInList []
  | c :: rest =>
    if c = ']' then .ok (false, c :: rest)
    else if first then .ok (true, c :: rest)
    else if c = ',' then
      match skipBlank rest with
      | [] => failNext .endInValue []
      | d :: rest =>
        if d = ']' then failNext .trailingComma (d :: rest) else .ok (true, d :: rest)
    else failNext .expectedListEnd (c :: rest)

/-- The values of the fields in order, as far as there are any, and the text at the closing
bracket. -/
def fieldsOfList : Bool → List (String × FieldType) → List Char →
    Except Failure (List (String × FieldValue) × List Char)
  | _, [], s => .ok ([], s)
  | first, (name, type) :: fields, s => do
    let (more, rest) ← nextItem first s
    if more then
      let (x, rest) ← fieldValue type rest
      let (xs, rest) ← fieldsOfList false fields rest
      .ok ((name, x) :: xs, rest)
    else .ok ([], rest)

/-- How the length of an array of fields is described. -/
def countText (shape : RecordShape) : String :=
  shape.title ++ " with " ++ toString shape.fields.length ++
    (if shape.fields.length = 1 then " element" else " elements")

/-- Refuses a record in which a field is missing. -/
def complete (shape : RecordShape) (values : List (String × FieldValue)) (rest : List Char) :
    Except Failure (List (String × FieldValue) × List Char) :=
  if shape.optional then .ok (values, rest)
  else
    match shape.fields.find? fun f => (Keyed.find? f.1 values).isNone with
    | some f => failAt (.missingField f.1) rest
    | none => .ok (values, rest)

/-- A record, from an object or from an array. -/
def record (shape : RecordShape) (s : List Char) :
    Except Failure (List (String × FieldValue) × List Char) :=
  match skipBlank s with
  | [] => failNext .endInValue []
  | c :: rest =>
    if c = '{' then do
      let (values, rest) ← fieldsOfMap shape.fields rest
      complete shape values rest
    else if c = '[' then do
      let (values, rest) ← fieldsOfList true shape.fields rest
      if values.length < shape.fields.length ∧ !shape.optional then
        let rest ← listEnd rest
        failAt (.invalidLength values.length (countText shape)) rest
      else
        let rest ← listEnd rest
        .ok (values, rest)
    else mismatch shape.title (c :: rest)

/-- The name of one of the known variants. -/
def variantName (known : List String) (s : List Char) : Except Failure (String × List Char) := do
  let (name, rest) ← string "variant identifier" s
  if name ∈ known then .ok (name, rest) else failAt (.unknownVariant name known) rest

/-- A variant: `bare` takes its bare name, `contents` what stands behind the name in an object. -/
def variant {α : Type} (known : List String) (bare : String → Except Failure α)
    (contents : String → List Char → Except Failure (α × List Char)) (s : List Char) :
    Except Failure (α × List Char) :=
  match skipBlank s with
  | [] => failNext .endInValue []
  | c :: rest =>
    if c = '{' then do
      let (name, rest) ← variantName known rest
      let rest ← colon rest
      let (x, rest) ← contents name rest
      match skipBlank rest with
      | [] => failAt .endInObject []
      | d :: rest => if d = '}' then .ok (x, rest) else failAt .expectedValue (d :: rest)
    else if c = '"' then do
      let (name, rest) ← variantName known (c :: rest)
      let x ← bare name
      .ok (x, rest)
    else failNext .expectedValue (c :: rest)

end Typed

end DocSelect
