/-!
# Sets of characters as ranges

A property of characters is a sorted list of ranges of code points, or of runs, in which only
every second one or so counts.

* `inRanges` says whether a code point is in one of the ranges.
* `inRuns` says whether a code point is in one of the runs.
-/

namespace DocSelect

/-- Whether a code point is in one of the ranges, which are sorted. -/
def inRanges : List (Nat × Nat) → Nat → Bool
  | [], _ => false
  | (low, high) :: rest, n => if n < low then false else n ≤ high || inRanges rest n

@[simp] theorem inRanges_nil (n : Nat) : inRanges [] n = false := rfl

/-- A run of code points at equal distances. -/
structure Run where
  /-- The first code point. -/
  first : Nat
  /-- The last code point. -/
  last : Nat
  /-- The distance from one to the next. -/
  stride : Nat

/-- Whether a code point is in the run. -/
def Run.contains (r : Run) (n : Nat) : Bool :=
  r.first ≤ n && n ≤ r.last && (n - r.first) % r.stride == 0

/-- Whether a code point is in one of the runs, which are sorted by their first code points. -/
def inRuns : List Run → Nat → Bool
  | [], _ => false
  | r :: rest, n => if n < r.first then false else r.contains n || inRuns rest n

@[simp] theorem inRuns_nil (n : Nat) : inRuns [] n = false := rfl

end DocSelect
