import DocSelect.Json.Reader
/-!
# Skipping values

A value that nobody asks for is skipped without being computed. Skipping is more liberal than
reading: a number may be past the largest one, half of a surrogate pair may stand alone, and
arrays and objects nest as deep as they like. After a comma it expects the next item, whatever
comes.

* `Typed.skipString`, `Typed.skipNumber` and `Typed.skip` give the text behind a value.
-/

namespace DocSelect.Typed

open Json Json.Read

/-! ### Strings -/

/-- The text behind an escape whose backslash has been read. -/
def skipEscape : List Char → Except Failure (List Char)
  | [] => failAt .endInString []
  | c :: rest =>
    if c = 'u' then do
      let (_, rest) ← hexFour rest
      .ok rest
    else if (Json.Read.simpleEscape? c).isSome then .ok rest
    else failPast .invalidEscape (c :: rest)

/-- The text behind a string whose opening quote has been read. The fuel bounds the number of
characters. -/
def skipStringFrom : Nat → List Char → Except Failure (List Char)
  | _, [] => failAt .endInString []
  | 0, s => failAt .endInString s
  | fuel + 1, c :: rest =>
    if c = '"' then .ok rest
    else if c = '\\' then do
      let rest ← skipEscape rest
      skipStringFrom fuel rest
    else if c.toNat < 0x20 then failAt .controlCharacter (c :: rest)
    else skipStringFrom fuel rest

/-- The text behind a string whose opening quote has been read. -/
def skipString (s : List Char) : Except Failure (List Char) := skipStringFrom s.length s

/-! ### Numbers -/

/-- The text behind an exponent, if one starts here. -/
def skipExponent : List Char → Except Failure (List Char)
  | [] => .ok []
  | c :: s =>
    if c = 'e' ∨ c = 'E' then
      let s := match s with
        | '+' :: rest | '-' :: rest => rest
        | _ => s
      match s with
      | [] => failAt .invalidNumber []
      | d :: rest =>
        if d.isDigit then .ok (rest.dropWhile Char.isDigit) else failPast .invalidNumber (d :: rest)
    else .ok (c :: s)

/-- The text behind a point with its digits and an exponent, if one of them starts here. -/
def skipFraction (s : List Char) : Except Failure (List Char) :=
  match s with
  | '.' :: rest =>
    if (rest.takeWhile Char.isDigit).isEmpty then failNext .invalidNumber rest
    else skipExponent (rest.dropWhile Char.isDigit)
  | _ => skipExponent s

/-- The text behind a number whose sign has been read. -/
def skipNumber : List Char → Except Failure (List Char)
  | [] => failAt .invalidNumber []
  | c :: rest =>
    if c = '0' then
      match rest with
      | d :: _ => if d.isDigit then failNext .invalidNumber rest else skipFraction rest
      | [] => .ok []
    else if c.isDigit then skipFraction (rest.dropWhile Char.isDigit)
    else failPast .invalidNumber (c :: rest)

/-! ### Values -/

/-- The text behind a value that is neither an array nor an object. -/
def skipLeaf : List Char → Except Failure (List Char)
  | [] => failNext .endInValue []
  | c :: rest =>
    if c = 'n' then word ['u', 'l', 'l'] rest
    else if c = 't' then word ['r', 'u', 'e'] rest
    else if c = 'f' then word ['a', 'l', 's', 'e'] rest
    else if c = '"' then skipString rest
    else if c = '-' then skipNumber rest
    else if c.isDigit then skipNumber (c :: rest)
    else failNext .expectedValue (c :: rest)

/-- The text behind a key and its colon. -/
def skipKey (s : List Char) : Except Failure (List Char) :=
  match skipBlank s with
  | [] => failNext .endInObject []
  | c :: rest =>
    if c = '"' then do
      let rest ← skipString rest
      colon rest
    else failNext .keyNotString (c :: rest)

mutual
/-- The text behind a value. The fuel bounds the number of steps. -/
def skipFrom : Nat → List Char → Except Failure (List Char)
  | 0, s => failNext .endInValue s
  | fuel + 1, s =>
    match skipBlank s with
    | '[' :: rest => skipItems true fuel rest
    | '{' :: rest => skipEntries true fuel rest
    | s => skipLeaf s
termination_by structural fuel => fuel
/-- The text behind an array, behind its bracket or behind an item; `first` says which. -/
def skipItems (first : Bool) : Nat → List Char → Except Failure (List Char)
  | 0, s => failNext .endInList s
  | fuel + 1, s =>
    match skipBlank s with
    | [] => failNext .endInList []
    | c :: rest =>
      if c = ']' then .ok rest
      else if first ∨ c = ',' then do
        let rest ← skipFrom fuel (if first then c :: rest else rest)
        skipItems false fuel rest
      else failNext .expectedListEnd (c :: rest)
termination_by structural fuel => fuel
/-- The text behind an object, behind its brace or behind an entry; `first` says which. -/
def skipEntries (first : Bool) : Nat → List Char → Except Failure (List Char)
  | 0, s => failNext .endInObject s
  | fuel + 1, s =>
    match skipBlank s with
    | [] => failNext .endInObject []
    | c :: rest =>
      if c = '}' then .ok rest
      else if first ∨ c = ',' then do
        let rest ← skipKey (if first then c :: rest else rest)
        let rest ← skipFrom fuel rest
        skipEntries false fuel rest
      else failNext .expectedObjectEnd (c :: rest)
termination_by structural fuel => fuel
end

/-- The text behind one value of any shape. -/
def skip (s : List Char) : Except Failure (List Char) := skipFrom (2 * s.length + 2) s

end DocSelect.Typed
