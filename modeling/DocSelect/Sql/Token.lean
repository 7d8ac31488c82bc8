import DocSelect.Stored.Basic
/-!
# Tokens of SQL text

The lexical rules of the engine: string literals end at the first quote that is not doubled, blobs
are hexadecimal digits in quotes, comments run from two hyphens to the end of the line or between
`/*` and `*/`. A statement ends at a zero character.

* `Token.readAll?` reads all tokens of a text, comments included; it fails on what is no token.
-/

namespace DocSelect

/-- A token of SQL text. -/
inductive Token
  /-- A bare word. -/
  | word (name : List Char)
  /-- A name in quotes or brackets. -/
  | quotedName (name : List Char)
  /-- A string literal, by the string it stands for. -/
  | string (s : List Char)
  /-- A blob literal. -/
  | blob (bytes : List UInt8)
  /-- A number without sign, by its text. -/
  | number (digits : List Char)
  /-- A placeholder, by its mark and its name. -/
  | variable (name : List Char)
  /-- An operator or a punctuation mark. -/
  | sign (mark : List Char)
  /-- A comment. -/
  | comment
  deriving DecidableEq

namespace Token

/-- A blank between tokens. -/
def isBlank (c : Char) : Bool :=
  c == ' ' || c == '\t' || c == '\n' || c == '\x0c' || c == '\r'

/-- A character inside a word. -/
def isWordChar (c : Char) : Bool :=
  c.isAlphanum || c == '_' || c == '$' || 0x80 ≤ c.toNat

/-- The rest of a literal up to its quote. A doubled quote stands for one. -/
def quotedFrom? (quote : Char) : List Char → Option (List Char × List Char)
  | [] => none
  | [c] => if c = quote then some ([], []) else none
  | c :: d :: s =>
    if c = quote then
      if d = quote then (quotedFrom? quote s).map fun r => (quote :: r.1, r.2)
      else some ([], d :: s)
    else (quotedFrom? quote (d :: s)).map fun r => (c :: r.1, r.2)

/-- The bytes of hexadecimal digits up to a quote. -/
def blobFrom? : List Char → Option (List UInt8 × List Char)
  | '\'' :: s => some ([], s)
  | a :: b :: s =>
    if isHexDigit a ∧ isHexDigit b then
      (blobFrom? s).map fun r => ((hexValue [a, b]).toUInt8 :: r.1, r.2)
    else none
  | _ => none

/-- The text behind a comment in stars; such a comment may also end with the text. -/
def behindStars : List Char → List Char
  | [] => []
  | '*' :: '/' :: s => s
  | _ :: s => behindStars s

/-- The exponent at the start of a text, if there is one. -/
def exponent (s : List Char) : List Char :=
  match s with
  | c :: rest =>
    if c = 'e' ∨ c = 'E' then
      match rest with
      | d :: more =>
        if d.isDigit then c :: rest.takeWhile Char.isDigit
        else if d = '+' ∨ d = '-' then
          let ds := more.takeWhile Char.isDigit
          if ds.isEmpty then [] else c :: d :: ds
        else []
      | [] => []
    else []
  | [] => []

/-- The text of a number at the start of a text. -/
def numberText (s : List Char) : List Char :=
  let whole := s.takeWhile Char.isDigit
  let behind := s.dropWhile Char.isDigit
  match whole, behind with
  | ['0'], x :: d :: rest =>
    if (x = 'x' ∨ x = 'X') ∧ isHexDigit d then '0' :: x :: d :: rest.takeWhile isHexDigit
    else if x = '.' then
      let fraction := (d :: rest).takeWhile Char.isDigit
      '0' :: '.' :: fraction ++ exponent ((d :: rest).dropWhile Char.isDigit)
    else whole ++ exponent behind
  | _, '.' :: rest =>
    whole ++ '.' :: rest.takeWhile Char.isDigit ++ exponent (rest.dropWhile Char.isDigit)
  | _, _ => whole ++ exponent behind

/-- A number, not followed by a character of a word. -/
def number? (s : List Char) : Option (Token × List Char) :=
  let digits := numberText s
  let rest := s.drop digits.length
  match rest with
  | c :: _ => if isWordChar c then none else some (.number digits, rest)
  | [] => some (.number digits, rest)

/-- The marks of two and three characters. -/
def longSigns : List (List Char) :=
  [['-', '>', '>'], ['-', '>'], ['=', '='], ['<', '='], ['<', '>'], ['<', '<'], ['>', '='],
   ['>', '>'], ['!', '='], ['|', '|']]

/-- The marks of one character. -/
def shortSigns : List Char :=
  ['-', '(', ')', ';', '+', '*', '/', '%', '=', '<', '>', '|', ',', '&', '~', '.']

/-- A mark. -/
def sign? (s : List Char) : Option (Token × List Char) :=
  match longSigns.find? fun mark => mark.isPrefixOf s with
  | some mark => some (.sign mark, s.drop mark.length)
  | none =>
    match s with
    | c :: rest => if c ∈ shortSigns then some (.sign [c], rest) else none
    | [] => none

/-- A word at the start of a text. -/
def leadingWord (s : List Char) : Token × List Char :=
  (.word (s.takeWhile isWordChar), s.dropWhile isWordChar)

/-- The token at the start of a text that starts with no blank. -/
def read? : List Char → Option (Token × List Char)
  | [] => none
  | c :: s =>
    if c = '\'' then (quotedFrom? '\'' s).map fun r => (.string r.1, r.2)
    else if c = '"' ∨ c = '\x60' then (quotedFrom? c s).map fun r => (.quotedName r.1, r.2)
    else if c = '[' then
      match s.dropWhile (· != ']') with
      | _ :: rest => some (.quotedName (s.takeWhile (· != ']')), rest)
      | [] => none
    else if c.isDigit then number? (c :: s)
    else if c = '?' then
      some (.variable ('?' :: s.takeWhile Char.isDigit), s.dropWhile Char.isDigit)
    else if c = '@' ∨ c = ':' ∨ c = '$' ∨ c = '#' then
      let name := s.takeWhile isWordChar
      if name.isEmpty then none else some (.variable (c :: name), s.dropWhile isWordChar)
    else if isWordChar c then
      match c, s with
      | 'x', '\'' :: rest | 'X', '\'' :: rest =>
        (blobFrom? rest).map fun r => (.blob r.1, r.2)
      | _, _ => some (leadingWord (c :: s))
    else
      match c, s with
      | '-', '-' :: rest => some (.comment, rest.dropWhile (· != '\n'))
      | '/', '*' :: d :: rest => some (.comment, behindStars (d :: rest))
      | '.', d :: _ => if d.isDigit then number? (c :: s) else sign? (c :: s)
      | _, _ => sign? (c :: s)

/-- The tokens of a text. The fuel bounds their number. -/
def readFrom? : Nat → List Char → Option (List Token)
  | 0, _ => none
  | fuel + 1, s =>
    match s.dropWhile isBlank with
    | [] => some []
    | '\x00' :: _ => some []
    | s => do
      let (t, rest) ← read? s
      let ts ← readFrom? fuel rest
      some (t :: ts)

/-- All tokens of a text, comments included. -/
def readAll? (s : List Char) : Option (List Token) := readFrom? (s.length + 1) s

end Token

end DocSelect
