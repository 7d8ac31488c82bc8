import DocSelect.Numeric.Layout
/-!
# Numbers of JSON text

A number is either a whole number that fits 64 bits, signed or unsigned, or a finite binary
number. The spelling decides: a whole number of that range without point and exponent is exact,
anything else is binary. Minus zero is binary, for only there it has a sign.

* `Whole` holds the exact integers.
* `Number.text` is the text of a number; it never spells a binary number as an integer.
-/

namespace DocSelect

/-- A whole number from the smallest signed to the largest unsigned integer of 64 bits. -/
structure Whole where
  /-- The integer. -/
  val : Int
  /-- It is not below the signed range. -/
  lower : -0x8000000000000000 ≤ val
  /-- It is not above the unsigned range. -/
  upper : val < 0x10000000000000000
  deriving DecidableEq

namespace Whole

instance : Inhabited Whole := ⟨⟨0, by decide, by decide⟩⟩

/-- The integer as a `Whole`, if it is in range. -/
def ofInt? (n : Int) : Option Whole :=
  if h : -0x8000000000000000 ≤ n ∧ n < 0x10000000000000000 then some ⟨n, h.1, h.2⟩ else none

/-- Whether the signed range holds the integer. -/
def isSigned (w : Whole) : Bool := decide (w.val < 0x8000000000000000)

@[simp] theorem ofInt?_val (w : Whole) : ofInt? w.val = some w := by
  simp only [ofInt?, dif_pos (And.intro w.lower w.upper)]

end Whole

/-- A number of JSON text. -/
inductive Number
  /-- An exact integer. -/
  | whole (n : Whole)
  /-- A finite binary number. -/
  | float (x : Binary64)
  deriving DecidableEq

namespace Number

instance : Inhabited Number := ⟨.whole default⟩

/-- The integer zero. -/
def zero : Number := .whole default

/-- The number as JSON text. -/
def text : Number → List Char
  | .whole n => intText n.val
  | .float x => x.jsonText

@[simp] theorem text_whole (n : Whole) : (Number.whole n).text = intText n.val := rfl

@[simp] theorem text_float (x : Binary64) : (Number.float x).text = x.jsonText := rfl

end Number

end DocSelect
