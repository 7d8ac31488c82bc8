import DocSelect.Stored.Basic
/-!
# Reading stored documents

The text of a stored document ends at a zero character. In the strict dialect it is JSON and
nothing else, in the lenient one the engine's extension of it.

* `Stored.read?` reads a text.
* `isValidJson` says whether a text is JSON in the strict sense.
-/

namespace DocSelect.Stored

/-- How much of the extension is allowed. -/
inductive Dialect
  /-- JSON only. -/
  | strict
  /-- The engine's extension of JSON. -/
  | lenient
  deriving DecidableEq

/-- How deep arrays and objects may nest. -/
def maxDepth : Nat := 1000

/-! ### Blanks -/

/-- A blank of JSON. -/
def isBlank (c : Char) : Bool := c == ' ' || c == '\t' || c == '\n' || c == '\r'

/-- A blank of the extension. -/
def isWideBlank (c : Char) : Bool :=
  isBlank c || c == '\x0b' || c == '\x0c' || c == '\u00A0' || c == '\u1680' ||
    ('\u2000' ≤ c && c ≤ '\u200A') || c == '\u2028' || c == '\u2029' || c == '\u202F' ||
    c == '\u205F' || c == '\u3000' || c == '\uFEFF'

/-- The text behind a comment that ends with a star and a slash. -/
def behindComment? : List Char → Option (List Char)
  | [] => none
  | '*' :: '/' :: rest => some rest
  | _ :: rest => behindComment? rest

/-- The text behind a comment that ends with its line. -/
def behindLine : List Char → List Char
  | [] => []
  | c :: rest =>
    if c = '\n' ∨ c = '\r' ∨ c = '\u2028' ∨ c = '\u2029' then rest else behindLine rest

/-- Skips blanks and comments of the extension. The fuel bounds their number. -/
def skipWide : Nat → List Char → List Char
  | 0, s => s
  | fuel + 1, s =>
    match s with
    | [] => []
    | '/' :: '*' :: rest =>
      match behindComment? rest with
      | some rest => skipWide fuel rest
      | none => s
    | '/' :: '/' :: rest => skipWide fuel (behindLine rest)
    | c :: rest => if isWideBlank c then skipWide fuel rest else s

/-- Skips what may stand between two parts of a document. -/
def skip (d : Dialect) (s : List Char) : List Char :=
  match d with
  | .strict => s.dropWhile isBlank
  | .lenient => skipWide (s.length + 1) s

/-! ### Strings and keys -/

/-- The more liberal of two kinds of escapes. -/
def Escapes.max : Escapes → Escapes → Escapes
  | .extended, _ | _, .extended => .extended
  | .json, _ | _, .json => .json
  | .none, .none => .none

/-- The spelling of an escape behind its backslash, its kind, and the text behind it. -/
def escape? (d : Dialect) : List Char → Option (List Char × Escapes × List Char)
  | [] => none
  | c :: s =>
    if c ∈ ['"', '\\', '/', 'b', 'f', 'n', 'r', 't'] then some ([c], .json, s)
    else if c = 'u' ∧ (fourHex? s).isSome then some (c :: s.take 4, .json, s.drop 4)
    else if d = .strict then none
    else if c ∈ ['\'', 'v', '0', '\n', '\u2028', '\u2029'] then some ([c], .extended, s)
    else if c = '\r' then
      match s with
      | '\n' :: rest => some (['\r', '\n'], .extended, rest)
      | _ => some (['\r'], .extended, s)
    else
      match c, s with
      | 'x', a :: b :: rest =>
        if isHexDigit a ∧ isHexDigit b then some (['x', a, b], .extended, rest) else none
      | _, _ => none

/-- The rest of a string up to its closing quote. The fuel bounds the number of characters. -/
def stringFrom? (d : Dialect) (quote : Char) : Nat → List Char → Option (Spelling × List Char)
  | 0, _ | _, [] => none
  | fuel + 1, c :: s =>
    if c = quote then some (⟨[], .none⟩, s)
    else if c = '\\' then do
      let (chars, kind, s) ← escape? d s
      let (x, rest) ← stringFrom? d quote fuel s
      some (⟨'\\' :: chars ++ x.chars, Escapes.max kind x.escapes⟩, rest)
    else
      let extended : Bool := c.toNat < 0x20 || c == '"'
      if extended ∧ d = .strict then none
      else do
        let (x, rest) ← stringFrom? d quote fuel s
        some (⟨c :: x.chars, if extended then .extended else x.escapes⟩, rest)

/-- A string behind its opening quote. -/
def string? (d : Dialect) (quote : Char) (s : List Char) : Option (Spelling × List Char) :=
  stringFrom? d quote (s.length + 1) s

/-- A character that a key without quotes may start with. -/
def isNameStart (c : Char) : Bool := c.isAlpha || c == '_' || c == '$' || 0x80 ≤ c.toNat

/-- Whether the escape of a code point follows a backslash. -/
def startsUnicodeEscape : List Char → Bool
  | 'u' :: behind => (fourHex? behind).isSome
  | _ => false

/-- The characters of a key without quotes, and whether one of them is an escape. -/
def nameFrom (first : Bool) : Nat → List Char → List Char × Bool × List Char
  | 0, s => ([], false, s)
  | fuel + 1, s =>
    match s with
    | [] => ([], false, [])
    | c :: rest =>
      if c = '\\' ∧ startsUnicodeEscape rest then
        let (chars, _, rest) := nameFrom false fuel rest
        (c :: chars, true, rest)
      else if (isNameStart c ∨ (!first ∧ c.isDigit)) ∧ (first ∨ !isWideBlank c) then
        let (chars, escaped, rest) := nameFrom false fuel rest
        (c :: chars, escaped, rest)
      else ([], false, s)

/-- A key without quotes. -/
def name? (s : List Char) : Option (Spelling × List Char) :=
  let (chars, escaped, rest) := nameFrom true (s.length + 1) s
  if chars.isEmpty then none else some (⟨chars, if escaped then .json else .none⟩, rest)

/-! ### Numbers and words -/

/-- The text of a word, its letters of either case, not followed by another letter or digit. -/
def word? (word s : List Char) : Option (List Char) :=
  let head := s.take word.length
  let rest := s.drop word.length
  if head.length = word.length ∧ head.map Char.toLower = word then
    match rest with
    | c :: _ => if c.isAlphanum then none else some rest
    | [] => some rest
  else none

/-- The value of a name of infinity or of no number. -/
def specialNumber? (s : List Char) : Option (Stored × List Char) :=
  let infinite : Stored := .float "9e999".toList
  match word? "inf".toList s, word? "infinity".toList s with
  | some rest, _ | none, some rest => some (infinite, rest)
  | none, none =>
    ((word? "nan".toList s).orElse fun _ =>
      (word? "qnan".toList s).orElse fun _ => word? "snan".toList s).map fun rest =>
        (.null, rest)

/-- The digits of an exponent behind its letter. -/
def exponent? (s : List Char) : Option (List Char × List Char) :=
  let (sign, s) := match s with
    | '+' :: rest => (['+'], rest)
    | '-' :: rest => (['-'], rest)
    | _ => ([], s)
  let ds := s.takeWhile Char.isDigit
  if ds.isEmpty then none else some (sign ++ ds, s.dropWhile Char.isDigit)

/-- A number in decimal without sign: digits, a point, digits and an exponent. One of the two
groups of digits may be missing in the lenient dialect. -/
def decimal? (d : Dialect) (s : List Char) : Option (List Char × Bool × List Char) :=
  let whole := s.takeWhile Char.isDigit
  let s := s.dropWhile Char.isDigit
  let (point, fraction, s) := match s with
    | '.' :: rest => (true, rest.takeWhile Char.isDigit, rest.dropWhile Char.isDigit)
    | _ => (false, [], s)
  if whole.isEmpty ∧ fraction.isEmpty then none
  else if d = .strict ∧ (whole.isEmpty ∨ (point ∧ fraction.isEmpty)) then none
  else if 1 < whole.length ∧ whole.head? = some '0' then none
  else
    let head := whole ++ (if point then '.' :: fraction else [])
    match s with
    | c :: rest =>
      if c = 'e' ∨ c = 'E' then do
        let (ds, rest) ← exponent? rest
        match rest with
        | '.' :: _ | 'e' :: _ | 'E' :: _ => none
        | _ => some (head ++ c :: ds, true, rest)
      else if c = '.' ∧ point then none
      else some (head, point, s)
    | [] => some (head, point, s)

/-- A number behind its sign. -/
def unsigned? (d : Dialect) (negative : Bool) (s : List Char) : Option (Stored × List Char) :=
  let decimal : Option (Stored × List Char) := do
    let (text, isFloat, rest) ← decimal? d s
    let text := if negative then '-' :: text else text
    some (if isFloat then .float text else .integer text, rest)
  match s with
  | '0' :: x :: c :: rest =>
    if d = .lenient ∧ (x = 'x' ∨ x = 'X') ∧ isHexDigit c then
      some (.hexadecimal negative (c :: rest.takeWhile isHexDigit), rest.dropWhile isHexDigit)
    else decimal
  | _ => decimal

/-- An infinity behind its sign; nothing is asked of the text behind it. -/
def signedInfinity? (negative : Bool) (s : List Char) : Option (Stored × List Char) :=
  let name := (s.take 3).map Char.toLower
  if name = "inf".toList then
    let long := ((s.drop 3).take 5).map Char.toLower = "inity".toList
    some (.float (if negative then "-9e999".toList else "9e999".toList),
      if long then s.drop 8 else s.drop 3)
  else none

/-- A number behind a sign that was there. -/
def signed? (d : Dialect) (negative : Bool) (s : List Char) : Option (Stored × List Char) :=
  match d with
  | .strict => unsigned? d negative s
  | .lenient => (signedInfinity? negative s).orElse fun _ => unsigned? d negative s

/-- A constant, not followed by a letter or a digit. -/
def constant? (text : List Char) (s : List Char) : Option (List Char) :=
  if s.take text.length = text then
    match s.drop text.length with
    | c :: rest => if c.isAlphanum then none else some (c :: rest)
    | [] => some []
  else none

/-- A number or a word. -/
def leaf? (d : Dialect) : List Char → Option (Stored × List Char)
  | [] => none
  | c :: s =>
    if c.isDigit then unsigned? d false (c :: s)
    else if c = '-' then signed? d true s
    else if c = '+' ∧ d = .lenient then signed? d false s
    else if c = '.' ∧ d = .lenient then unsigned? d false (c :: s)
    else if let some rest := constant? "true".toList (c :: s) then some (.bool true, rest)
    else if let some rest := constant? "false".toList (c :: s) then some (.bool false, rest)
    else if let some rest := constant? "null".toList (c :: s) then some (.null, rest)
    else if d = .lenient then specialNumber? (c :: s)
    else none

/-! ### Documents -/

/-- The items of an array, behind its bracket or a comma; `first` says which. The fuel bounds their
number. -/
def items? (d : Dialect) (value : List Char → Option (Stored × List Char)) (first : Bool) :
    Nat → List Char → Option (List Stored × List Char)
  | 0, _ => none
  | fuel + 1, s =>
    match skip d s with
    | [] => none
    | c :: rest =>
      if c = ']' then if first ∨ d = .lenient then some ([], rest) else none
      else do
        let (x, rest) ← value (c :: rest)
        match skip d rest with
        | ',' :: rest =>
          let (xs, rest) ← items? d value false fuel rest
          some (x :: xs, rest)
        | ']' :: rest => some ([x], rest)
        | _ => none

/-- A key: a string, or a name that is no number or constant. -/
def key? (d : Dialect) : List Char → Option (Spelling × List Char)
  | [] => none
  | c :: s =>
    if c = '"' then string? d '"' s
    else if d = .strict then none
    else if c = '\'' then string? d '\'' s
    else if (leaf? d (c :: s)).isSome then none
    else name? (c :: s)

/-- The entries of an object, behind its brace or a comma; `first` says which. The fuel bounds their
number. -/
def entries? (d : Dialect) (value : List Char → Option (Stored × List Char)) (first : Bool) :
    Nat → List Char → Option (List (Spelling × Stored) × List Char)
  | 0, _ => none
  | fuel + 1, s =>
    match skip d s with
    | [] => none
    | c :: rest =>
      if c = '}' then if first ∨ d = .lenient then some ([], rest) else none
      else do
        let (k, rest) ← key? d (c :: rest)
        match skip d rest with
        | ':' :: rest =>
          let (x, rest) ← value rest
          match skip d rest with
          | ',' :: rest =>
            let (xs, rest) ← entries? d value false fuel rest
            some ((k, x) :: xs, rest)
          | '}' :: rest => some ([(k, x)], rest)
          | _ => none
        | _ => none

/-- A document whose arrays and objects nest at most `depth` deep. -/
def value? (d : Dialect) (depth : Nat) (s : List Char) : Option (Stored × List Char) :=
  match skip d s with
  | [] => none
  | c :: rest =>
    if c = '"' ∨ (c = '\'' ∧ d = .lenient) then do
      let (x, rest) ← string? d c rest
      some (.string x, rest)
    else if c = '[' then
      match depth with
      | 0 => none
      | depth + 1 => do
        let (xs, rest) ← items? d (value? d depth) true (rest.length + 1) rest
        some (.array xs, rest)
    else if c = '{' then
      match depth with
      | 0 => none
      | depth + 1 => do
        let (xs, rest) ← entries? d (value? d depth) true (rest.length + 1) rest
        some (.object xs, rest)
    else leaf? d (c :: rest)
termination_by structural depth

/-- Reads a text. -/
def readAs? (d : Dialect) (text : List Char) : Option Stored := do
  let (x, rest) ← value? d maxDepth (text.takeWhile (· != '\x00'))
  if (skip d rest).isEmpty then some x else none

/-- Reads a text in the engine's extension of JSON. -/
def read? (text : List Char) : Option Stored := readAs? .lenient text

end DocSelect.Stored

namespace DocSelect

/-- Whether a text is JSON in the strict sense. -/
def isValidJson (text : List Char) : Bool := (Stored.readAs? .strict text).isSome

end DocSelect
