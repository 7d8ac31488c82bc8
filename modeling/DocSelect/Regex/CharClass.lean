import DocSelect.Keyed
import DocSelect.Text.Digits
import DocSelect.Text.Folding
import DocSelect.Text.Letters
import DocSelect.Text.Script
import DocSelect.Text.Words
/-!
# Classes of characters

A class is built from ranges and named properties by union, intersection, differences, complement
and closure under case.

* `CharClass.contains` decides membership.
* `CharClass.ofPosixName?` is the class of a name as in `[:alpha:]`.
-/

namespace DocSelect

/-- A set of characters. -/
inductive CharClass
  /-- The code points from the first to the second. -/
  | range (low high : Nat)
  /-- The decimal digits of all scripts. -/
  | digit
  /-- The white space. -/
  | space
  /-- The word characters. -/
  | word
  /-- The alphabetic characters. -/
  | alphabetic
  /-- The characters in upper case. -/
  | uppercase
  /-- The characters in lower case. -/
  | lowercase
  /-- The characters of a general category. -/
  | category (c : Category)
  /-- The characters of a script, by its name. -/
  | script (name : String)
  /-- No character. -/
  | none
  /-- The characters of either class. -/
  | union (a b : CharClass)
  /-- The characters of both classes. -/
  | inter (a b : CharClass)
  /-- The characters of the first class that are not in the second. -/
  | minus (a b : CharClass)
  /-- The characters of exactly one of the classes. -/
  | differ (a b : CharClass)
  /-- The characters that are not in the class. -/
  | complement (a : CharClass)
  /-- The characters that differ from one of the class in case only. -/
  | caseless (a : CharClass)
  /-- The same, for the letters of ASCII only. -/
  | asciiCaseless (a : CharClass)
  deriving DecidableEq

namespace CharClass

/-- The other case of a letter of ASCII; other code points stay as they are. -/
def asciiOtherCase (n : Nat) : Nat :=
  if 0x41 ≤ n ∧ n ≤ 0x5A then n + 32 else if 0x61 ≤ n ∧ n ≤ 0x7A then n - 32 else n

/-- Whether a code point is in the class. -/
def containsCode : CharClass → Nat → Bool
  | range low high, n => low ≤ n && n ≤ high
  | digit, n => inRanges decimalDigitRanges n
  | space, n => inRanges whiteSpaceRanges n
  | word, n => inRanges wordRanges n
  | alphabetic, n => isAlphabetic n
  | uppercase, n => isUppercase n
  | lowercase, n => isLowercase n
  | category c, n => c.contains n
  | script name, n => (Script.all.find? fun s => s.name == name).any fun s => inRanges s.ranges n
  | none, _ => false
  | union a b, n => containsCode a n || containsCode b n
  | inter a b, n => containsCode a n && containsCode b n
  | minus a b, n => containsCode a n && !containsCode b n
  | differ a b, n => containsCode a n != containsCode b n
  | complement a, n => !containsCode a n
  | caseless a, n => containsCode a n || (caseVariants n).any fun m => containsCode a m
  | asciiCaseless a, n => containsCode a n || containsCode a (asciiOtherCase n)

/-- Whether a character is in the class. -/
def contains (a : CharClass) (c : Char) : Bool := a.containsCode c.toNat

/-- One character. -/
def single (c : Char) : CharClass := range c.toNat c.toNat

/-- The characters of one of several classes. -/
def unions : List CharClass → CharClass
  | [] => none
  | [a] => a
  | a :: rest => union a (unions rest)

/-- The class of ranges. -/
def ranges (rs : List (Nat × Nat)) : CharClass := unions (rs.map fun r => range r.1 r.2)

/-- The digits of ASCII. -/
def asciiDigit : CharClass := range 0x30 0x39

/-- The white space of ASCII. -/
def asciiSpace : CharClass := ranges [(0x9, 0xD), (0x20, 0x20)]

/-- The word characters of ASCII. -/
def asciiWord : CharClass :=
  ranges [(0x30, 0x39), (0x41, 0x5A), (0x5F, 0x5F), (0x61, 0x7A)]

/-- The classes with names, all of ASCII characters. -/
def posixNames : List (String × CharClass) :=
  [("alnum", ranges [(0x30, 0x39), (0x41, 0x5A), (0x61, 0x7A)]),
   ("alpha", ranges [(0x41, 0x5A), (0x61, 0x7A)]),
   ("ascii", range 0 0x7F),
   ("blank", ranges [(0x9, 0x9), (0x20, 0x20)]),
   ("cntrl", ranges [(0, 0x1F), (0x7F, 0x7F)]),
   ("digit", asciiDigit),
   ("graph", range 0x21 0x7E),
   ("lower", range 0x61 0x7A),
   ("print", range 0x20 0x7E),
   ("punct", ranges [(0x21, 0x2F), (0x3A, 0x40), (0x5B, 0x60), (0x7B, 0x7E)]),
   ("space", asciiSpace),
   ("upper", range 0x41 0x5A),
   ("word", asciiWord),
   ("xdigit", ranges [(0x30, 0x39), (0x41, 0x46), (0x61, 0x66)])]

/-- The class of a name. -/
def ofPosixName? (name : String) : Option CharClass := Keyed.find? name posixNames

/-- Whether the class has no character between 128 and 255. -/
def isAscii (a : CharClass) : Bool := (List.range 128).all fun n => !a.containsCode (n + 128)

@[simp] theorem contains_single (a c : Char) : (single a).contains c = (a.toNat == c.toNat) := by
  rw [Bool.eq_iff_iff]
  simp [contains, single, containsCode]
  omega

end CharClass

end DocSelect
