/-!
# Patterns with wildcards

Two kinds of patterns over code points. In a `LIKE` pattern a percent sign stands for any text and
an underscore for one character, and the letters of ASCII match in either case. In a `GLOB` pattern
these are a star and a question mark, and there are sets in brackets.

* `Wildcard.like` and `Wildcard.glob` are the two items of patterns, `Wildcard.run` matches a whole
  text.
-/

namespace DocSelect

/-- An item of a pattern. -/
inductive Wildcard
  /-- Any text. -/
  | many
  /-- Any one character. -/
  | one
  /-- One character. -/
  | char (c : Nat)
  /-- A letter of ASCII in either case. -/
  | letter (c : Nat)
  /-- A character in one of the ranges, or in none of them. -/
  | set (inverted : Bool) (ranges : List (Nat × Nat))
  /-- Nothing. -/
  | never
  deriving DecidableEq

namespace Wildcard

/-- What matching a pattern comes to. -/
inductive Outcome
  /-- The text matches. -/
  | hit
  /-- It does not. -/
  | miss
  /-- It does not, and neither does any end of it. -/
  | hopeless
  deriving DecidableEq

/-- A letter of ASCII in lower case; other code points stay as they are. -/
def lower (c : Nat) : Nat := if 65 ≤ c ∧ c ≤ 90 then c + 32 else c

/-- Whether a character matches an item that stands for one character. -/
def matchesOne : Wildcard → Nat → Bool
  | many, _ => false
  | one, _ => true
  | char c, d => c == d
  | letter c, d => lower c == lower d
  | set inverted ranges, d => (ranges.any fun r => r.1 ≤ d && d ≤ r.2) != inverted
  | never, _ => false

/-- Tries a pattern on every end of a text, the longest first. A hopeless end makes the shorter
ones hopeless too. -/
def search (attempt : List Nat → Outcome) : List Nat → Outcome
  | [] => match attempt [] with
    | .hit => .hit
    | _ => .hopeless
  | c :: s => match attempt (c :: s) with
    | .miss => search attempt s
    | outcome => outcome

/-- Matches a whole text. -/
def run : List Wildcard → List Nat → Outcome
  | [], [] => .hit
  | [], _ :: _ => .miss
  | many :: p, s => search (run p) s
  | _ :: _, [] => .miss
  | w :: p, c :: s => if w.matchesOne c then run p s else .miss

/-- Whether a whole text matches. -/
def accepts (p : List Wildcard) (s : List Nat) : Bool := run p s = .hit

/-- The items of a `LIKE` pattern. -/
def like (p : List Nat) : List Wildcard :=
  p.map fun c => if c = 37 then many else if c = 95 then one else letter c

/-- The ranges of a set up to its bracket. A hyphen between two members makes a range of them;
`prior` is the member before. -/
def setRanges (prior : Option Nat) : List Nat → Option (List (Nat × Nat) × List Nat)
  | [] => none
  | [c] => if c = 93 then some ([], []) else none
  | c :: d :: s =>
    if c = 93 then some ([], d :: s)
    else
      match prior with
      | some p =>
        if c = 45 ∧ d ≠ 93 then (setRanges none s).map fun r => ((p, d) :: r.1, r.2)
        else (setRanges (some c) (d :: s)).map fun r => ((c, c) :: r.1, r.2)
      | none => (setRanges (some c) (d :: s)).map fun r => ((c, c) :: r.1, r.2)

/-- A set behind its first bracket: a caret inverts it, and a bracket at its start is a member. -/
def setItem? (s : List Nat) : Option (Wildcard × List Nat) :=
  let (inverted, s) := match s with
    | 94 :: rest => (true, rest)
    | _ => (false, s)
  let (first, s) := match s with
    | 93 :: rest => ([(93, 93)], rest)
    | _ => ([], s)
  (setRanges none s).map fun r => (set inverted (first ++ r.1), r.2)

/-- The items of a `GLOB` pattern; a set without an end matches nothing. The fuel bounds their
number. -/
def globFrom : Nat → List Nat → List Wildcard
  | 0, _ | _, [] => []
  | fuel + 1, c :: s =>
    if c = 42 then many :: globFrom fuel s
    else if c = 63 then one :: globFrom fuel s
    else if c = 91 then
      match setItem? s with
      | some (w, rest) => w :: globFrom fuel rest
      | none => [never]
    else char c :: globFrom fuel s

/-- The items of a `GLOB` pattern. -/
def glob (p : List Nat) : List Wildcard := globFrom p.length p

end Wildcard

end DocSelect
