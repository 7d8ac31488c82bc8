import DocSelect.Json.Reader
/-!
# Reading typed values from JSON text

Where a value of a known type is expected, any other value is refused with a description of what
was found instead.

* `Typed.mismatch` is that refusal.
* `Typed.string`, `Typed.flag`, `Typed.natural` and `Typed.unit` read values of simple types.
* `Typed.whole` reads a text that holds one value and nothing else.
-/

namespace DocSelect.Typed

open Json Json.Read

/-- The refusal of a number. -/
def numberMismatch (expected : String) : Number → Cause
  | .whole w => .invalidType (.integer w.val) expected
  | .float x => .invalidType (.floating (String.ofList x.jsonText)) expected

/-- Refuses the value that starts here. Everything but an array or an object is read first, so
that a malformed value is reported as such. -/
def mismatch {α : Type} (expected : String) (s : List Char) : Except Failure α :=
  match s with
  | [] => failNext .expectedValue []
  | c :: rest =>
    if c = 'n' then do
      let rest ← word ['u', 'l', 'l'] rest
      failAt (.invalidType .null expected) rest
    else if c = 't' then do
      let rest ← word ['r', 'u', 'e'] rest
      failAt (.invalidType (.bool true) expected) rest
    else if c = 'f' then do
      let rest ← word ['a', 'l', 's', 'e'] rest
      failAt (.invalidType (.bool false) expected) rest
    else if c = '"' then do
      let (x, rest) ← Json.Read.string rest
      failAt (.invalidType (.string x) expected) rest
    else if c = '-' ∨ c.isDigit then do
      let (n, rest) ← number (c :: rest)
      failAt (numberMismatch expected n) rest
    else if c = '[' then failAt (.invalidType .sequence expected) (c :: rest)
    else if c = '{' then failAt (.invalidType .map expected) (c :: rest)
    else failNext .expectedValue (c :: rest)

/-- A string. -/
def string (expected : String) (s : List Char) : Except Failure (String × List Char) :=
  match skipBlank s with
  | [] => failNext .endInValue []
  | c :: rest => if c = '"' then Json.Read.string rest else mismatch expected (c :: rest)

/-- A truth value. -/
def flag (s : List Char) : Except Failure (Bool × List Char) :=
  match skipBlank s with
  | [] => failNext .endInValue []
  | c :: rest =>
    if c = 't' then do
      let rest ← word ['r', 'u', 'e'] rest
      .ok (true, rest)
    else if c = 'f' then do
      let rest ← word ['a', 'l', 's', 'e'] rest
      .ok (false, rest)
    else mismatch "a boolean" (c :: rest)

/-- An unsigned integer of 64 bits. -/
def natural (s : List Char) : Except Failure (Nat × List Char) :=
  match skipBlank s with
  | [] => failNext .endInValue []
  | c :: rest =>
    if c = '-' ∨ c.isDigit then do
      let (n, rest) ← number (c :: rest)
      match n with
      | .whole w =>
        if w.val < 0 then failAt (.invalidValue (.integer w.val) "u64") rest
        else .ok (w.val.toNat, rest)
      | .float _ => failAt (numberMismatch "u64" n) rest
    else mismatch "u64" (c :: rest)

/-- A null. -/
def unit (s : List Char) : Except Failure (Unit × List Char) :=
  match skipBlank s with
  | [] => failNext .endInValue []
  | c :: rest =>
    if c = 'n' then do
      let rest ← word ['u', 'l', 'l'] rest
      .ok ((), rest)
    else mismatch "unit" (c :: rest)

/-- Reads a text that holds one value and nothing else. -/
def whole {α : Type} (read : List Char → Except Failure (α × List Char)) (text : String) :
    Except Failure α := do
  let (x, rest) ← read text.toList
  finish rest
  .ok x

/-- The report of a failure to read a text. -/
def report {α : Type} (text : String) : Except Failure α → Except String α
  | .ok x => .ok x
  | .error f => .error (f.message text.toList)

end DocSelect.Typed
