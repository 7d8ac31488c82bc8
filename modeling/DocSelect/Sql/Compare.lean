import DocSelect.Regex.Reader
import DocSelect.Sql.JsonFunction
import DocSelect.Scalar
import DocSelect.Sql.Wildcard
/-!
# Comparisons of values

Numbers come before text and text before blobs; numbers compare by exact value, text and blobs by
their bytes. Null compares with nothing. Patterns match texts, and numbers count as their texts.

* `SqlValue.order` is the order of values.
* `Comparison.apply` compares two values.
-/

namespace DocSelect

/-- The order of two sequences of bytes. -/
def compareBytes : List UInt8 → List UInt8 → Ordering
  | [], [] => .eq
  | [], _ :: _ => .lt
  | _ :: _, [] => .gt
  | a :: s, b :: t => if a < b then .lt else if b < a then .gt else compareBytes s t

namespace SqlValue

/-- The place of a value among the kinds of values. -/
def rank : SqlValue → Nat
  | .null => 0
  | .integer _ | .real _ => 1
  | .text _ => 2
  | .blob _ => 3

/-- The order of two values. -/
def order : SqlValue → SqlValue → Ordering
  | .integer a, .integer b => Ord.compare a b
  | .integer a, .real x => (x.compareInt a).swap
  | .real x, .integer b => x.compareInt b
  | .real x, .real y => x.compareValue y
  | .text a, .text b => compareBytes a b
  | .blob a, .blob b => compareBytes a b
  | a, b => Ord.compare a.rank b.rank

/-- A number as its text, other values as they are. -/
def numberAsText : SqlValue → SqlValue
  | .integer n => .text (utf8Bytes (intText n))
  | .real x => .text (utf8Bytes x.fifteenDigitText)
  | v => v

/-- Whether a value is text. -/
def isText : SqlValue → Bool
  | .text _ => true
  | _ => false

/-- Compares two values by their order; null makes the truth unknown. -/
def related (holds : Ordering → Bool) (a b : SqlValue) : Option Bool :=
  if a = .null ∨ b = .null then none else some (holds (a.order b))

/-- Compares two values of which one counts as text: if either is text, numbers are compared as
texts. -/
def relatedAsText (holds : Ordering → Bool) (a b : SqlValue) : Option Bool :=
  if a.isText ∨ b.isText then related holds a.numberAsText b.numberAsText else related holds a b

/-- How many bytes a pattern of wildcards may have. -/
def maxPatternLength : Nat := 50000

/-- Matches a text with a pattern of wildcards. The pattern must not be too long even if there is no
text. -/
def likeness (items : List Nat → List Wildcard) (subject pattern : SqlValue) :
    Except EngineError (Option Bool) :=
  match JsonFunction.textOf? pattern with
  | none => .ok none
  | some p =>
    if maxPatternLength < p.length then .error .patternTooLong
    else
      .ok ((JsonFunction.textOf? subject).map fun s =>
        Wildcard.accepts (items (looseCodes p)) (looseCodes s))

/-- The text that a regular expression sees. -/
def regexText (v : SqlValue) : Except EngineError (Option (List Char)) :=
  match v with
  | .null => .ok none
  | .integer n => .ok (some (intText n))
  | .real x => .ok (some x.plainText)
  | .text bytes | .blob bytes =>
    match decodeUtf8 bytes with
    | .ok s => .ok (some s)
    | .error e => .error (.notText e)

/-- Searches a text for a match of a regular expression. The expression must be well-formed even if
there is no text. -/
def regexMatch (subject pattern : SqlValue) : Except EngineError (Option Bool) := do
  match ← regexText pattern with
  | none => .error .nullPattern
  | some p =>
    match Regex.read? p with
    | none => .error (.badPattern (String.ofList p))
    | some r =>
      let s ← regexText subject
      .ok (s.map r.matchesIn)

end SqlValue

namespace Comparison

/-- What a comparison asks of an order. -/
def accepts : Comparison → Ordering → Bool
  | .eq, o => o == .eq
  | .ne, o => o != .eq
  | .lt, o => o == .lt
  | .lte, o => o != .gt
  | .gt, o => o == .gt
  | .gte, o => o != .lt
  | _, _ => false

/-- Compares two values; the flag says whether one of them counts as text. -/
def apply (op : Comparison) (asText : Bool) (a b : SqlValue) :
    Except EngineError (Option Bool) :=
  match op with
  | .like => a.likeness Wildcard.like b
  | .glob => a.likeness Wildcard.glob b
  | .regexp => a.regexMatch b
  | op => .ok (if asText then a.relatedAsText op.accepts b else a.related op.accepts b)

end Comparison

end DocSelect
