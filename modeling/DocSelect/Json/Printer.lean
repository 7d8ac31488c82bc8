import DocSelect.Json.Basic
/-!
# JSON text of a document

Compact text: no blanks, entries and items in order, repeated keys written as often as they
occur. In a string a quote, a backslash and the control characters below the blank are escaped,
and nothing else is.

* `Json.escape` is the text of one character inside a string.
* `Json.render` is the text of a document.
-/

namespace DocSelect

/-- A hexadecimal digit in lower case. -/
def hexDigit (n : Nat) : Char := Nat.digitChar (n % 16)

/-- A hexadecimal digit in upper case. -/
def hexDigitUpper (n : Nat) : Char := (hexDigit n).toUpper

namespace Json

/-- A character as it stands inside a string. -/
def escape (c : Char) : List Char :=
  if c = '"' then ['\\', '"']
  else if c = '\\' then ['\\', '\\']
  else if c = '\x08' then ['\\', 'b']
  else if c = '\x0c' then ['\\', 'f']
  else if c = '\n' then ['\\', 'n']
  else if c = '\r' then ['\\', 'r']
  else if c = '\t' then ['\\', 't']
  else if c.toNat < 0x20 then ['\\', 'u', '0', '0', hexDigit (c.toNat / 16), hexDigit c.toNat]
  else [c]

/-- A string with its quotes. -/
def quote (s : String) : List Char := '"' :: s.toList.flatMap escape ++ ['"']

mutual
/-- The characters of a document's text. -/
def chars : Json → List Char
  | .null => ['n', 'u', 'l', 'l']
  | .bool true => ['t', 'r', 'u', 'e']
  | .bool false => ['f', 'a', 'l', 's', 'e']
  | .number n => n.text
  | .string s => quote s
  | .array [] => ['[', ']']
  | .array (d :: rest) => '[' :: (chars d ++ charsItems rest)
  | .object [] => ['{', '}']
  | .object ((k, d) :: rest) => '{' :: (quote k ++ ':' :: (chars d ++ charsEntries rest))
termination_by structural d => d
/-- The items after the first, each behind a comma, and the closing bracket. -/
def charsItems : List Json → List Char
  | [] => [']']
  | d :: rest => ',' :: (chars d ++ charsItems rest)
termination_by structural items => items
/-- The entries after the first, each behind a comma, and the closing brace. -/
def charsEntries : List (String × Json) → List Char
  | [] => ['}']
  | (k, d) :: rest => ',' :: (quote k ++ ':' :: (chars d ++ charsEntries rest))
termination_by structural entries => entries
end

/-- The compact text of a document. -/
def render (d : Json) : String := String.ofList d.chars

@[simp] theorem toList_render (d : Json) : d.render.toList = d.chars := by simp [render]

end Json

end DocSelect
