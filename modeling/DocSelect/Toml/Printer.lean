import DocSelect.Json.Printer
/-!
# Settings text: written strings

A string is written in the first form that fits: in double quotes without escapes but for tabs, in
single quotes, in either over several lines, and with any escapes at last.

* `stringText` is the text of a string.
-/

namespace DocSelect.Toml

/-- A control character that no form without escapes can hold. -/
def isControl (c : Char) : Bool :=
  (c.toNat < 0x20 && c != '\t' && c != '\n') || c.toNat == 0x7F

/-- The longest run of a character; `run` stand right before the text. -/
def longestRunFrom (q : Char) (run : Nat) : List Char → Nat
  | [] => run
  | c :: s => if c = q then longestRunFrom q (run + 1) s else max run (longestRunFrom q 0 s)

/-- The longest run of a character. -/
def longestRun (q : Char) (s : List Char) : Nat := longestRunFrom q 0 s

/-- A character with an escape if it needs one, quotes and newlines apart. -/
def escapedChar (c : Char) : List Char :=
  if c = '\x08' then ['\\', 'b']
  else if c = '\t' then ['\\', 't']
  else if c = '\x0c' then ['\\', 'f']
  else if c = '\r' then ['\\', 'r']
  else if c = '\\' then ['\\', '\\']
  else if c.toNat < 0x20 ∨ c.toNat = 0x7F then
    ['\\', 'u', '0', '0', hexDigitUpper (c.toNat / 16), hexDigitUpper c.toNat]
  else [c]

/-- The contents of a string in double quotes on one line. -/
def escapedLine (s : List Char) : List Char :=
  s.flatMap fun c =>
    if c = '"' then ['\\', '"'] else if c = '\n' then ['\\', 'n'] else escapedChar c

/-- The contents of a string in double quotes over several lines: each third quote of a run has an
escape. -/
def escapedLines (run : Nat) : List Char → List Char
  | [] => []
  | c :: s =>
    if c = '"' then
      if run = 2 then '\\' :: '"' :: escapedLines 0 s else '"' :: escapedLines (run + 1) s
    else if c = '\n' then '\n' :: escapedLines 0 s
    else escapedChar c ++ escapedLines 0 s

/-- Three quotes on each side of contents, which start on a line of their own if they have line
ends. -/
def tripled (q : Char) (s contents : List Char) : List Char :=
  [q, q, q] ++ (if '\n' ∈ s then ['\n'] else []) ++ contents ++ [q, q, q]

/-- The text of a string. -/
def stringText (s : List Char) : List Char :=
  let control := s.any isControl
  let newline := decide ('\n' ∈ s)
  let backslash := decide ('\\' ∈ s)
  let double := longestRun '"' s
  let single := longestRun '\'' s
  if !control ∧ !backslash ∧ double = 0 ∧ !newline then '"' :: escapedLine s ++ ['"']
  else if !control ∧ single = 0 ∧ !newline then '\'' :: s ++ ['\'']
  else if !control ∧ !backslash ∧ double ≤ 2 then tripled '"' s (escapedLines 0 s)
  else if !control ∧ single ≤ 2 then tripled '\'' s s
  else if newline then tripled '"' s (escapedLines 0 s)
  else '"' :: escapedLine s ++ ['"']

end DocSelect.Toml
