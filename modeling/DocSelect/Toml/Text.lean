import DocSelect.Text.Quoted
/-!
# Settings text: strings and blanks

Four forms of strings: in double quotes with escapes or in single quotes without, each on one line
or, between three quotes, over several. Every function returns what it read and the rest of the
text; line ends are single newline characters.

* `skipBlank` and `skipLayout` skip blanks, and blanks with line ends and comments.
* `lineEnd?` reads the rest of a line that has nothing more to say.
* `string?` reads a string of any form, `lineString?` one that stands on one line.
-/

namespace DocSelect.Toml

/-- Line ends of two characters become single newlines. -/
def unifyLineEnds : List Char → List Char
  | '\r' :: '\n' :: s => '\n' :: unifyLineEnds s
  | c :: s => c :: unifyLineEnds s
  | [] => []

/-- A blank inside a line. -/
def isBlank (c : Char) : Bool := c == ' ' || c == '\t'

/-- A character that may stand in a comment or a string: no control character but the tab. -/
def isPlain (c : Char) : Bool := c == '\t' || (0x20 ≤ c.toNat && c.toNat != 0x7F)

/-- Skips blanks. -/
def skipBlank (s : List Char) : List Char := s.dropWhile isBlank

/-- Skips blanks, line ends and comments; the flag says whether the text is inside a comment. -/
def skipLayoutFrom : Bool → List Char → List Char
  | _, [] => []
  | true, c :: s =>
    if c = '\n' then skipLayoutFrom false s
    else if isPlain c then skipLayoutFrom true s
    else c :: s
  | false, c :: s =>
    if isBlank c ∨ c = '\n' then skipLayoutFrom false s
    else if c = '#' then skipLayoutFrom true s
    else c :: s

/-- Skips blanks, line ends and comments. -/
def skipLayout (s : List Char) : List Char := skipLayoutFrom false s

/-- Reads blanks, a comment and the line end, or the end of the text. -/
def lineEnd? (s : List Char) : Option (List Char) :=
  let s := skipBlank s
  let s := match s with
    | '#' :: rest => rest.dropWhile isPlain
    | _ => s
  match s with
  | [] => some []
  | '\n' :: rest => some rest
  | _ => none

/-- The value of a hexadecimal digit. -/
def hexValue? (c : Char) : Option Nat :=
  if c.isDigit then some (c.toNat - 48)
  else if 'a' ≤ c ∧ c ≤ 'f' then some (c.toNat - 87)
  else if 'A' ≤ c ∧ c ≤ 'F' then some (c.toNat - 55)
  else none

/-- The character with a code point of exactly `count` hexadecimal digits. -/
def codePoint? : Nat → Nat → List Char → Option (Char × List Char)
  | 0, n, s => if n.isValidChar then some (Char.ofNat n, s) else none
  | _ + 1, _, [] => none
  | count + 1, n, c :: s => do
    let d ← hexValue? c
    codePoint? count (n * 16 + d) s

/-- The character of an escape, behind its backslash. -/
def escape? : List Char → Option (Char × List Char)
  | 'b' :: s => some ('\x08', s)
  | 'f' :: s => some ('\x0c', s)
  | 'n' :: s => some ('\n', s)
  | 'r' :: s => some ('\r', s)
  | 't' :: s => some ('\t', s)
  | '"' :: s => some ('"', s)
  | '\\' :: s => some ('\\', s)
  | 'u' :: s => codePoint? 4 0 s
  | 'U' :: s => codePoint? 8 0 s
  | _ => none

/-- The rest of a string in double quotes. The fuel bounds its length. -/
def basicFrom? : Nat → List Char → Option (List Char × List Char)
  | 0, _ | _, [] => none
  | fuel + 1, c :: s =>
    if c = '"' then some ([], s)
    else if c = '\\' then do
      let (x, s) ← escape? s
      let (xs, s) ← basicFrom? fuel s
      some (x :: xs, s)
    else if isPlain c then do
      let (xs, s) ← basicFrom? fuel s
      some (c :: xs, s)
    else none

/-- The rest of a string in single quotes. -/
def literalFrom? : List Char → Option (List Char × List Char)
  | [] => none
  | c :: s =>
    if c = '\'' then some ([], s)
    else if isPlain c then do
      let (xs, s) ← literalFrom? s
      some (c :: xs, s)
    else none

/-- A run of quotes in a string of several lines: up to two of them are contents; three end the
string, and up to two more before them are contents. -/
def quoteRun? (quote : Char) (s : List Char) : Option (List Char × Bool × List Char) :=
  let run := s.takeWhile (· == quote)
  let rest := s.dropWhile (· == quote)
  if run.length ≤ 2 then some (run, false, rest)
  else if run.length ≤ 5 then some (run.drop 3, true, rest)
  else none

/-- The rest of a string of several lines in double quotes. A backslash at the end of a line
swallows the blanks and line ends behind it. The fuel bounds its length. -/
def basicLinesFrom? : Nat → List Char → Option (List Char × List Char)
  | 0, _ | _, [] => none
  | fuel + 1, c :: s =>
    if c = '"' then do
      let (xs, ended, s) ← quoteRun? '"' (c :: s)
      if ended then some (xs, s)
      else
        let (ys, s) ← basicLinesFrom? fuel s
        some (xs ++ ys, s)
    else if c = '\\' then
      match skipBlank s with
      | '\n' :: s => basicLinesFrom? fuel (s.dropWhile fun c => isBlank c || c == '\n')
      | _ => do
        let (x, s) ← escape? s
        let (xs, s) ← basicLinesFrom? fuel s
        some (x :: xs, s)
    else if isPlain c ∨ c = '\n' then do
      let (xs, s) ← basicLinesFrom? fuel s
      some (c :: xs, s)
    else none

/-- The rest of a string of several lines in single quotes. The fuel bounds its length. -/
def literalLinesFrom? : Nat → List Char → Option (List Char × List Char)
  | 0, _ | _, [] => none
  | fuel + 1, c :: s =>
    if c = '\'' then do
      let (xs, ended, s) ← quoteRun? '\'' (c :: s)
      if ended then some (xs, s)
      else
        let (ys, s) ← literalLinesFrom? fuel s
        some (xs ++ ys, s)
    else if isPlain c ∨ c = '\n' then do
      let (xs, s) ← literalLinesFrom? fuel s
      some (c :: xs, s)
    else none

/-- A line end right behind the opening quotes is not part of the string. -/
def dropNewline : List Char → List Char
  | '\n' :: s => s
  | s => s

/-- A string on one line. -/
def lineString? : List Char → Option (List Char × List Char)
  | '"' :: s => basicFrom? (s.length + 1) s
  | '\'' :: s => literalFrom? s
  | _ => none

/-- A string of any form. -/
def string? : List Char → Option (List Char × List Char)
  | '"' :: '"' :: '"' :: s =>
    let s := dropNewline s
    basicLinesFrom? (s.length + 1) s
  | '\'' :: '\'' :: '\'' :: s =>
    let s := dropNewline s
    literalLinesFrom? (s.length + 1) s
  | s => lineString? s

end DocSelect.Toml
