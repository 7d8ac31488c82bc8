import DocSelect.Regex.CharClass
/-!
# Regular expressions

A regular expression describes texts; anchors describe the place between two characters. A text
matches if some part of it does, with the characters around that part as its context.

* `Regex.nullable` says whether the empty part at a place matches.
* `Regex.advance` are the expressions that must match what follows a character: their union is the
  derivative of the expression.
* `Regex.matchesIn` searches a text.
-/

namespace DocSelect

/-- A place between two characters; none stands for the start or the end of the text. -/
structure Place where
  /-- The character before. -/
  before : Option Char
  /-- The character behind. -/
  behind : Option Char

/-- A condition on a place. -/
inductive Anchor
  /-- The start of the text. -/
  | textStart
  /-- The end of the text. -/
  | textEnd
  /-- The start of a line; with the flag also behind a carriage return. -/
  | lineStart (carriage : Bool)
  /-- The end of a line; with the flag also before a carriage return. -/
  | lineEnd (carriage : Bool)
  /-- A word on exactly one side. -/
  | wordEdge (ascii : Bool)
  /-- A word on both sides or on none. -/
  | noWordEdge (ascii : Bool)
  /-- A word behind and none before. -/
  | wordStart (ascii : Bool)
  /-- A word before and none behind. -/
  | wordEnd (ascii : Bool)
  /-- No word before. -/
  | noWordBefore (ascii : Bool)
  /-- No word behind. -/
  | noWordBehind (ascii : Bool)
  deriving DecidableEq

namespace Anchor

/-- Whether there is a word character. -/
def isWord (ascii : Bool) : Option Char → Bool
  | some c => if ascii then isAsciiWordCharacter c else isWordCharacter c
  | none => false

/-- Whether a place is the start of a line. Between a carriage return and a newline there is
none. -/
def startsLine (carriage : Bool) (p : Place) : Bool :=
  match p.before with
  | none => true
  | some c => c == '\n' || (carriage && c == '\r' && p.behind != some '\n')

/-- Whether a place is the end of a line. -/
def endsLine (carriage : Bool) (p : Place) : Bool :=
  match p.behind with
  | none => true
  | some c =>
    if carriage then c == '\r' || (c == '\n' && p.before != some '\r') else c == '\n'

/-- Whether the condition holds of a place. -/
def holds : Anchor → Place → Bool
  | textStart, p => p.before.isNone
  | textEnd, p => p.behind.isNone
  | lineStart carriage, p => startsLine carriage p
  | lineEnd carriage, p => endsLine carriage p
  | wordEdge ascii, p => isWord ascii p.before != isWord ascii p.behind
  | noWordEdge ascii, p => isWord ascii p.before == isWord ascii p.behind
  | wordStart ascii, p => !isWord ascii p.before && isWord ascii p.behind
  | wordEnd ascii, p => isWord ascii p.before && !isWord ascii p.behind
  | noWordBefore ascii, p => !isWord ascii p.before
  | noWordBehind ascii, p => !isWord ascii p.behind

end Anchor

/-- A regular expression. -/
inductive Regex
  /-- The empty text. -/
  | empty
  /-- One character of a class. -/
  | oneOf (cls : CharClass)
  /-- The empty text, at some places. -/
  | anchor (a : Anchor)
  /-- One expression and then another. -/
  | seq (r s : Regex)
  /-- One of two expressions. -/
  | alt (r s : Regex)
  /-- An expression at least `min` and at most `max` times; without `max` any number of times. -/
  | times (r : Regex) (min : Nat) (max : Option Nat)
  deriving DecidableEq

namespace Regex

/-- Whether the empty text at a place matches. -/
def nullable (p : Place) : Regex → Bool
  | empty => true
  | oneOf _ => false
  | anchor a => a.holds p
  | seq r s => nullable p r && nullable p s
  | alt r s => nullable p r || nullable p s
  | times r min _ => min == 0 || nullable p r

/-- One expression and then another; nothing is put before an expression. -/
def before (r s : Regex) : Regex := if r = empty then s else seq r s

/-- What must match behind the character `c`, which stands behind `prev`: one of the expressions.
If a repeated expression matches the empty text here, any number of its repetitions may be empty. -/
def advance (prev : Option Char) (c : Char) : Regex → List Regex
  | empty => []
  | oneOf cls => if cls.contains c then [empty] else []
  | anchor _ => []
  | seq r s =>
    (advance prev c r).map (fun r' => r'.before s) ++
      if nullable ⟨prev, some c⟩ r then advance prev c s else []
  | alt r s => advance prev c r ++ advance prev c s
  | times r min max =>
    if max = some 0 then []
    else
      let min := if nullable ⟨prev, some c⟩ r then 0 else min - 1
      (advance prev c r).map fun r' => r'.before (times r min (max.map fun n => n - 1))

/-- Adds an expression unless it is there. -/
def insert (r : Regex) (rs : List Regex) : List Regex := if r ∈ rs then rs else r :: rs

/-- Searches the text behind `prev`: `rs` are the expressions of the matches that have begun, and
at every place another may begin. -/
def search (r : Regex) (prev : Option Char) (rs : List Regex) : List Char → Bool
  | [] => (r :: rs).any fun r' => r'.nullable ⟨prev, none⟩
  | c :: s =>
    let rs := insert r rs
    rs.any (fun r' => r'.nullable ⟨prev, some c⟩) ||
      search r (some c)
        ((rs.flatMap fun r' => r'.advance prev c).foldl (fun acc r' => insert r' acc) []) s

/-- Whether a part of the text matches. -/
def matchesIn (r : Regex) (s : List Char) : Bool := search r none [] s

end Regex

end DocSelect
