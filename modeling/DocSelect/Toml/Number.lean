import DocSelect.Toml.Basic
import DocSelect.Toml.Text
/-!
# Settings text: numbers and moments

Integers have 64 bits with sign. A digit group may be split by single underscores. A number with a
point or an exponent is a binary number.

* `number?` reads a number, `moment?` a date, a time, or a date with a time.
-/

namespace DocSelect.Toml

/-- Digits of a base, single underscores between them removed. The flag says whether a digit stands
before this text. -/
def digitsFrom? (isDigit : Char → Bool) : Bool → List Char → Option (List Char × List Char)
  | before, [] => if before then some ([], []) else none
  | before, c :: s =>
    if isDigit c then do
      let (ds, rest) ← digitsFrom? isDigit true s
      some (c :: ds, rest)
    else if c = '_' ∧ before then digitsFrom? isDigit false s
    else if before then some ([], c :: s)
    else none

/-- At least one decimal digit. -/
def digits? (s : List Char) : Option (List Char × List Char) := digitsFrom? Char.isDigit false s

/-- An integer in the range of 64 bits. -/
def integerItem? (n : Int) : Option Item :=
  if -0x8000000000000000 ≤ n ∧ n < 0x8000000000000000 then some (.integer n) else none

/-- A number in a base other than ten, behind the letter of the base. -/
def basedNumber? (base : Nat) (s : List Char) : Option (Item × List Char) := do
  let (ds, rest) ← digitsFrom? (fun c => match hexValue? c with
    | some d => decide (d < base)
    | none => false) false s
  let n := ds.foldl (fun acc c => acc * base + (hexValue? c).getD 0) 0
  let item ← integerItem? n
  some (item, rest)

/-- The digits before the point: no zero stands before other digits. -/
def wholeDigits? : List Char → Option (List Char × List Char)
  | '0' :: s => some (['0'], s)
  | s => digits? s

/-- The digits behind a point, if there is one. -/
def fraction? : List Char → Option (List Char × List Char)
  | '.' :: s => do
    let (ds, rest) ← digits? s
    some ('.' :: ds, rest)
  | s => some ([], s)

/-- An exponent, if there is one. -/
def exponent? : List Char → Option (List Char × List Char)
  | c :: s =>
    if c = 'e' ∨ c = 'E' then
      match s with
      | '-' :: s => do
        let (ds, rest) ← digits? s
        some ('e' :: '-' :: ds, rest)
      | '+' :: s => do
        let (ds, rest) ← digits? s
        some ('e' :: ds, rest)
      | s => do
        let (ds, rest) ← digits? s
        some ('e' :: ds, rest)
    else some ([], c :: s)
  | [] => some ([], [])

/-- A number in base ten behind its sign. A binary number above the largest finite one is
refused. -/
def decimalNumber? (negative : Bool) (s : List Char) : Option (Item × List Char) := do
  let (whole, s) ← wholeDigits? s
  let (fraction, s) ← fraction? s
  let (exponent, s) ← exponent? s
  if fraction.isEmpty ∧ exponent.isEmpty then
    let n : Int := digitsValue whole
    let item ← integerItem? (if negative then -n else n)
    some (item, s)
  else
    let sign := if negative then ['-'] else []
    let x ← FloatValue.read? (sign ++ whole ++ fraction ++ exponent)
    if x = .infinite false then none else some (.float x, s)

/-- A number behind its sign: digits, or the name of an infinity or of no number. -/
def unsignedNumber? (negative : Bool) : List Char → Option (Item × List Char)
  | 'i' :: 'n' :: 'f' :: s => some (.float (.infinite negative), s)
  | 'n' :: 'a' :: 'n' :: s => some (.float .nan, s)
  | s => decimalNumber? negative s

/-- A number. -/
def number? : List Char → Option (Item × List Char)
  | '0' :: 'x' :: s => basedNumber? 16 s
  | '0' :: 'o' :: s => basedNumber? 8 s
  | '0' :: 'b' :: s => basedNumber? 2 s
  | '-' :: s => unsignedNumber? true s
  | '+' :: s => unsignedNumber? false s
  | s => unsignedNumber? false s

/-- Exactly `count` decimal digits, as a number. -/
def fixedDigits? : Nat → Nat → List Char → Option (Nat × List Char)
  | 0, n, s => some (n, s)
  | _ + 1, _, [] => none
  | count + 1, n, c :: s =>
    if c.isDigit then fixedDigits? count (n * 10 + (c.toNat - 48)) s else none

/-- Two digits within bounds. -/
def twoDigits? (low high : Nat) (s : List Char) : Option (List Char) := do
  let (n, s) ← fixedDigits? 2 0 s
  if low ≤ n ∧ n ≤ high then some s else none

/-- A given character. -/
def mark? (c : Char) : List Char → Option (List Char)
  | d :: s => if c = d then some s else none
  | [] => none

/-- The number of days of a month. -/
def daysInMonth (year month : Nat) : Nat :=
  if month = 2 then
    if year % 4 = 0 ∧ (year % 100 ≠ 0 ∨ year % 400 = 0) then 29 else 28
  else if month ∈ [4, 6, 9, 11] then 30
  else 31

/-- A date. -/
def date? (s : List Char) : Option (List Char) := do
  let (year, s) ← fixedDigits? 4 0 s
  let s ← mark? '-' s
  let (month, s) ← fixedDigits? 2 0 s
  if month < 1 ∨ 12 < month then none
  else
    let s ← mark? '-' s
    twoDigits? 1 (daysInMonth year month) s

/-- A time of the day, to the second or finer. -/
def time? (s : List Char) : Option (List Char) := do
  let s ← twoDigits? 0 23 s
  let s ← mark? ':' s
  let s ← twoDigits? 0 59 s
  let s ← mark? ':' s
  let s ← twoDigits? 0 60 s
  match s with
  | '.' :: c :: rest => if c.isDigit then some (rest.dropWhile Char.isDigit) else some s
  | _ => some s

/-- The distance from universal time. -/
def offset? : List Char → Option (List Char)
  | c :: s =>
    if c = 'Z' ∨ c = 'z' then some s
    else if c = '+' ∨ c = '-' then do
      let s ← twoDigits? 0 23 s
      let s ← mark? ':' s
      twoDigits? 0 59 s
    else none
  | [] => none

/-- The text behind a time that may follow a date, with its distance from universal time. -/
def timeBehindDate? : List Char → Option (List Char)
  | c :: s =>
    if c = 'T' ∨ c = 't' ∨ c = ' ' then do
      let rest ← time? s
      some ((offset? rest).getD rest)
    else none
  | [] => none

/-- A date, a time, or a date with a time. -/
def moment? (s : List Char) : Option (Item × List Char) := do
  let rest ← match date? s with
    | some rest => some ((timeBehindDate? rest).getD rest)
    | none => time? s
  some (.moment (String.ofList (s.take (s.length - rest.length))), rest)

end DocSelect.Toml
