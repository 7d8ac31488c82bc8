import DocSelect.Regex.Basic
import DocSelect.Regex.Property
/-!
# Reading regular expressions

The text of a regular expression: alternatives separated by bars, repetitions, groups with flags
and names, classes in brackets with set operations, and escapes. Anything else has no meaning, and
neither has an expression that could match half of a character.

* `Regex.Flags` are the modes that a flag turns on or off.
* `Regex.read?` reads a whole text.
-/

namespace DocSelect.Regex

/-- The modes in which a text is read. -/
structure Flags where
  /-- Letters stand for either case. -/
  caseless : Bool := false
  /-- Anchors of lines hold at every line. -/
  multiLine : Bool := false
  /-- The dot stands for newlines too. -/
  dotAll : Bool := false
  /-- Blanks and comments are skipped. -/
  extended : Bool := false
  /-- Carriage returns end lines. -/
  carriage : Bool := false
  /-- Classes go beyond ASCII. -/
  unicode : Bool := true

/-! ### Blanks -/

/-- Skips blanks and comments; the flag says whether the text is inside a comment. -/
def skipLayout : Bool → List Char → List Char
  | _, [] => []
  | true, c :: s => skipLayout (c != '\n') s
  | false, c :: s =>
    if isWhiteSpace c then skipLayout false s
    else if c = '#' then skipLayout true s
    else c :: s

/-- Skips blanks and comments where they have no meaning. -/
def skip (f : Flags) (s : List Char) : List Char := if f.extended then skipLayout false s else s

/-! ### Numbers -/

/-- The value of a hexadecimal digit. -/
def hexDigit? (c : Char) : Option Nat :=
  if c.isDigit then some (c.toNat - 48)
  else if 'a' ≤ c ∧ c ≤ 'f' then some (c.toNat - 87)
  else if 'A' ≤ c ∧ c ≤ 'F' then some (c.toNat - 55)
  else none

/-- The character of a code point. -/
def charOf? (n : Nat) : Option Char := if n.isValidChar then some (Char.ofNat n) else none

/-- Exactly `count` hexadecimal digits. -/
def fixedHex? (f : Flags) : Nat → Nat → List Char → Option (Nat × List Char)
  | 0, n, s => some (n, s)
  | count + 1, n, s =>
    match skip f s with
    | [] => none
    | c :: s => do
      let d ← hexDigit? c
      fixedHex? f count (n * 16 + d) s

/-- Hexadecimal digits up to a closing brace; `n` is none before the first one. The fuel bounds
their number. -/
def bracedHex? (f : Flags) : Nat → Option Nat → List Char → Option (Nat × List Char)
  | 0, _, _ => none
  | fuel + 1, n, s =>
    match skip f s with
    | [] => none
    | c :: s =>
      if c = '}' then n.map fun n => (n, s)
      else do
        let d ← hexDigit? c
        bracedHex? f fuel (some (n.getD 0 * 16 + d)) s

/-- A decimal number of 32 bits with blanks around it. -/
def count? (f : Flags) (s : List Char) : Option (Option Nat × List Char) :=
  let rec digits : Nat → Option Nat → List Char → Option Nat × List Char
    | 0, n, s => (n, s)
    | fuel + 1, n, s =>
      match s with
      | c :: rest =>
        if c.isDigit then digits fuel (some (n.getD 0 * 10 + (c.toNat - 48))) (skip f rest)
        else (n, s)
      | [] => (n, s)
  let s := s.dropWhile isWhiteSpace
  let (n, rest) := digits (s.length + 1) none s
  if n.getD 0 < 0x100000000 then some (n, rest.dropWhile isWhiteSpace) else none

/-! ### Escapes -/

/-- What a character or an escape stands for. -/
inductive Primitive
  /-- A character; `byte` if it was written as a byte. -/
  | literal (c : Char) (byte : Bool)
  /-- A named class. -/
  | cls (c : CharClass)
  /-- An anchor. -/
  | anchor (a : Anchor)

/-- A class or its complement. -/
def classOf (negated : Bool) (c : CharClass) : CharClass := if negated then .complement c else c

/-- The class of a letter such as `d`; the capital letter is the complement. -/
def namedClass? (f : Flags) (c : Char) : Option CharClass :=
  let pick (wide narrow : CharClass) (negated : Bool) : Option CharClass :=
    some (classOf negated (if f.unicode then wide else narrow))
  match c with
  | 'd' => pick .digit .asciiDigit false
  | 'D' => pick .digit .asciiDigit true
  | 's' => pick .space .asciiSpace false
  | 'S' => pick .space .asciiSpace true
  | 'w' => pick .word .asciiWord false
  | 'W' => pick .word .asciiWord true
  | _ => none

/-- A character that an escape leaves as it is: a sign of ASCII, but no angle bracket. -/
def isEscapable (c : Char) : Bool :=
  c.toNat < 0x80 && !c.isAlphanum && c != '<' && c != '>'

/-- The character that a letter stands for. -/
def controlChar? : Char → Option Char
  | 'a' => some '\x07'
  | 'f' => some '\x0c'
  | 't' => some '\t'
  | 'n' => some '\n'
  | 'r' => some '\r'
  | 'v' => some '\x0b'
  | _ => none

/-- A character by its hexadecimal code point, behind the letter of the escape. -/
def hexEscape? (f : Flags) (letter : Char) (s : List Char) : Option (Primitive × List Char) :=
  match skip f s with
  | [] => none
  | '{' :: rest => do
    let (n, rest) ← bracedHex? f (rest.length + 1) none rest
    let c ← charOf? n
    some (.literal c false, skip f rest)
  | s => do
    let (n, rest) ← fixedHex? f (if letter = 'x' then 2 else if letter = 'u' then 4 else 8) 0 s
    let c ← charOf? n
    some (.literal c (letter = 'x'), skip f rest)

/-- The letters and hyphens up to a closing brace. The fuel bounds their number. -/
def edgeName? (f : Flags) : Nat → List Char → Option (List Char × List Char)
  | 0, _ => none
  | fuel + 1, s =>
    match skip f s with
    | [] => none
    | c :: s =>
      if c = '}' then some ([], s)
      else if c.isAlpha ∨ c = '-' then do
        let (name, s) ← edgeName? f fuel s
        some (c :: name, s)
      else none

/-- The edge of a word, behind the letter of the escape. A name in braces narrows it; braces that
do not start like a name belong to a repetition. -/
def wordEdge? (f : Flags) (s : List Char) : Option (Primitive × List Char) :=
  let ascii := !f.unicode
  match s with
  | '{' :: rest =>
    match skip f rest with
    | [] => none
    | c :: _ =>
      if c.isAlpha ∨ c = '-' then do
        let (name, rest) ← edgeName? f (rest.length + 1) rest
        match String.ofList name with
        | "start" => some (.anchor (.wordStart ascii), rest)
        | "end" => some (.anchor (.wordEnd ascii), rest)
        | "start-half" => some (.anchor (.noWordBefore ascii), rest)
        | "end-half" => some (.anchor (.noWordBehind ascii), rest)
        | _ => none
      else some (.anchor (.wordEdge ascii), s)
  | _ => some (.anchor (.wordEdge ascii), s)

/-- The closure of a class under case, if case does not matter. -/
def foldCase (f : Flags) (c : CharClass) : CharClass :=
  if f.caseless then if f.unicode then .caseless c else .asciiCaseless c else c

/-- The characters up to a closing brace. The fuel bounds their number. -/
def bracedName? (f : Flags) : Nat → List Char → Option (List Char × List Char)
  | 0, _ => none
  | fuel + 1, s =>
    match skip f s with
    | [] => none
    | c :: s =>
      if c = '}' then some ([], s)
      else do
        let (name, s) ← bracedName? f fuel s
        some (c :: name, s)

/-- The class that a text in braces names: a property, or a property and one of its values behind a
colon, an equals sign or `!=`. -/
def classOfName? (name : List Char) : Option CharClass :=
  let rec unequal : List Char → List Char → Option (List Char × List Char)
    | before, '!' :: '=' :: rest => some (before.reverse, rest)
    | before, c :: rest => unequal (c :: before) rest
    | _, [] => none
  match unequal [] name with
  | some (property, value) => CharClass.ofPropertyValue? property value
  | none =>
    let sign := if ':' ∈ name then ':' else '='
    if sign ∈ name then
      CharClass.ofPropertyValue? (name.takeWhile (· != sign)) ((name.dropWhile (· != sign)).drop 1)
    else CharClass.ofProperty? name

/-- The class of a property behind the letter of the escape: one letter, or a name in braces. -/
def propertyClass? (f : Flags) (negated : Bool) (s : List Char) : Option (CharClass × List Char) :=
  if !f.unicode then none
  else
    let close (c : CharClass) : CharClass := classOf negated (foldCase f c)
    match skip f s with
    | [] => none
    | '{' :: rest => do
      let (name, rest) ← bracedName? f (rest.length + 1) rest
      let c ← classOfName? name
      some (close c, rest)
    | c :: rest =>
      if c = '\\' then none else (CharClass.ofProperty? [c]).map fun cls => (close cls, rest)

/-- An escape behind its backslash. -/
def escape? (f : Flags) : List Char → Option (Primitive × List Char)
  | [] => none
  | c :: s =>
    if c = 'x' ∨ c = 'u' ∨ c = 'U' then hexEscape? f c s
    else if c = 'p' ∨ c = 'P' then
      (propertyClass? f (decide (c = 'P')) s).map fun (cls, rest) => (.cls cls, rest)
    else if isEscapable c then some (.literal c false, s)
    else
      match namedClass? f c, controlChar? c with
      | some cls, _ => some (.cls cls, s)
      | none, some x => some (.literal x false, s)
      | none, none =>
        match c with
        | 'A' => some (.anchor .textStart, s)
        | 'z' => some (.anchor .textEnd, s)
        | 'b' => wordEdge? f s
        | 'B' => some (.anchor (.noWordEdge (!f.unicode)), s)
        | '<' => some (.anchor (.wordStart (!f.unicode)), s)
        | '>' => some (.anchor (.wordEnd (!f.unicode)), s)
        | _ => none

/-! ### Classes in brackets -/

/-- An operation on two classes. -/
inductive ClassOp
  /-- Both. -/
  | inter
  /-- The first without the second. -/
  | minus
  /-- Exactly one. -/
  | differ

/-- The class of an operation. -/
def ClassOp.apply : ClassOp → CharClass → CharClass → CharClass
  | inter, a, b => .inter a b
  | minus, a, b => .minus a b
  | differ, a, b => .differ a b

/-- A class in brackets as far as it has been read: the items since the last operation, and the
operation with its left side. With each class goes how deep it nests. -/
structure ClassDraft where
  /-- The items, the last one first. -/
  items : List (CharClass × Nat)
  /-- The operation that waits for its right side. -/
  pending : Option ((CharClass × Nat) × ClassOp)

/-- The union of the items. -/
def ClassDraft.union (d : ClassDraft) : CharClass × Nat :=
  match d.items with
  | [] => (.none, 0)
  | [item] => item
  | items => (.unions (items.map Prod.fst), (items.map Prod.snd).foldl max 0 + 1)

/-- The class so far, with the pending operation carried out. -/
def ClassDraft.close (f : Flags) (d : ClassDraft) : CharClass × Nat :=
  match d.pending with
  | none => d.union
  | some (left, op) =>
    let right := d.union
    (op.apply (foldCase f left.1) (foldCase f right.1), max left.2 right.2 + 1)

/-- Adds an item. -/
def ClassDraft.add (d : ClassDraft) (c : CharClass) (depth : Nat) : ClassDraft :=
  { d with items := (c, depth) :: d.items }

/-- A named class in brackets and colons, behind the first bracket. -/
def posixClass? (s : List Char) : Option (CharClass × List Char) := do
  let s ← match s with
    | ':' :: s => some s
    | _ => none
  let (negated, s) := match s with
    | '^' :: s => (true, s)
    | _ => (false, s)
  let name := s.takeWhile (· != ':')
  match s.drop name.length with
  | ':' :: ']' :: rest => do
    let c ← CharClass.ofPosixName? (String.ofList name)
    some (classOf negated c, rest)
  | _ => none

/-- One end of a range, or a class of its own. -/
def classPrimitive? (f : Flags) : List Char → Option (Primitive × List Char)
  | [] => none
  | '\\' :: s => escape? f s
  | c :: s => some (.literal c false, s)

/-- Whether a character may stand in a class in this mode. -/
def allowedInClass (f : Flags) (c : Char) (byte : Bool) : Bool :=
  f.unicode || byte || c.toNat < 0x80

/-- A character, a range of characters, or a named class. -/
def classItem? (f : Flags) (s : List Char) : Option (CharClass × List Char) := do
  let (low, rest) ← classPrimitive? f s
  let alone : Option (CharClass × List Char) :=
    match low with
    | .literal c byte => if allowedInClass f c byte then some (.single c, skip f rest) else none
    | .cls c => some (c, skip f rest)
    | .anchor _ => none
  match skip f rest with
  | [] => none
  | '-' :: behind =>
    match skip f behind with
    | [] => none
    | ']' :: _ | '-' :: _ => alone
    | behind => do
      let (high, rest) ← classPrimitive? f behind
      match low, high with
      | .literal a x, .literal b y =>
        if a ≤ b ∧ allowedInClass f a x ∧ allowedInClass f b y then
          some (.range a.toNat b.toNat, rest)
        else none
      | _, _ => none
  | _ => alone

/-- The hyphens at the start of a class. -/
def leadingHyphens (f : Flags) : Nat → List Char → Nat × List Char
  | 0, s => (0, s)
  | fuel + 1, s =>
    match s with
    | '-' :: rest =>
      let (n, rest) := leadingHyphens f fuel (skip f rest)
      (n + 1, rest)
    | _ => (0, s)

/-- The start of a class behind its bracket: whether it is negated, and the hyphens or the bracket
that are members. -/
def classStart (f : Flags) (s : List Char) : Bool × ClassDraft × List Char :=
  let s := skip f s
  let (negated, s) := match s with
    | '^' :: rest => (true, skip f rest)
    | _ => (false, s)
  let (n, s) := leadingHyphens f s.length s
  let hyphens := List.replicate n (CharClass.single '-', 0)
  match n, s with
  | 0, ']' :: rest => (negated, ⟨[(.single ']', 0)], none⟩, skip f rest)
  | _, s => (negated, ⟨hyphens, none⟩, s)

/-- The class in brackets that `d` begins, up to its closing bracket. The fuel bounds the number of
items. -/
def classFrom? (f : Flags) : Nat → ClassDraft → List Char → Option ((CharClass × Nat) × List Char)
  | 0, _, _ => none
  | fuel + 1, d, s =>
    match skip f s with
    | [] => none
    | ']' :: rest => some (d.close f, rest)
    | '&' :: '&' :: rest => classFrom? f fuel ⟨[], some (d.close f, .inter)⟩ rest
    | '-' :: '-' :: rest => classFrom? f fuel ⟨[], some (d.close f, .minus)⟩ rest
    | '~' :: '~' :: rest => classFrom? f fuel ⟨[], some (d.close f, .differ)⟩ rest
    | '[' :: rest =>
      match posixClass? rest with
      | some (c, rest) => classFrom? f fuel (d.add c 0) rest
      | none => do
        let (negated, inner, rest) := classStart f rest
        let ((c, depth), rest) ← classFrom? f fuel inner rest
        classFrom? f fuel (d.add (classOf negated (foldCase f c)) (depth + 1)) rest
    | s => do
      let (c, rest) ← classItem? f s
      classFrom? f fuel (d.add c 0) rest

/-- A class in brackets behind its first bracket, and how deep it nests. -/
def bracketClass? (f : Flags) (s : List Char) : Option (CharClass × Nat × List Char) := do
  let (negated, d, rest) := classStart f s
  let ((c, depth), rest) ← classFrom? f (s.length + 1) d rest
  let c := classOf negated (foldCase f c)
  if f.unicode ∨ c.isAscii then some (c, depth + 1, rest) else none

/-! ### Expressions -/

/-- An expression that has been read. -/
structure Piece where
  /-- The expression. -/
  regex : Regex
  /-- How deep its text nests. -/
  depth : Nat
  /-- Whether a repetition can follow it. -/
  repeatable : Bool

/-- The expression of a character. A byte beyond ASCII is only half of a character. -/
def literal? (f : Flags) (c : Char) (byte : Bool) : Option Regex :=
  if f.unicode ∨ c.toNat < 0x80 then some (.oneOf (foldCase f (.single c)))
  else if byte ∨ f.caseless then none
  else some (.oneOf (.single c))

/-- The expression of a dot. -/
def dot? (f : Flags) : Option Regex :=
  if !f.unicode then none
  else if f.dotAll then some (.oneOf (.complement .none))
  else if f.carriage then some (.oneOf (.complement (.union (.single '\n') (.single '\r'))))
  else some (.oneOf (.complement (.single '\n')))

/-- The expression of an escape. -/
def primitive? (f : Flags) : Primitive → Option Regex
  | .literal c byte => literal? f c byte
  | .cls c => if f.unicode ∨ c.isAscii then some (.oneOf c) else none
  | .anchor a => some (.anchor a)

/-- The anchor at the start of a line, or of the text. -/
def startAnchor (f : Flags) : Anchor := if f.multiLine then .lineStart f.carriage else .textStart

/-- The anchor at the end of a line, or of the text. -/
def endAnchor (f : Flags) : Anchor := if f.multiLine then .lineEnd f.carriage else .textEnd

/-- Pieces one behind the other; the last one comes first. -/
def sequence : List Piece → Piece
  | [] => ⟨.empty, 0, false⟩
  | [p] => p
  | ps =>
    ⟨ps.foldl (fun r p => p.regex.before r) .empty, (ps.map Piece.depth).foldl max 0 + 1, true⟩

/-- One of several pieces; the last one comes first. -/
def choice : List Piece → Piece
  | [] => ⟨.empty, 0, false⟩
  | [p] => p
  | p :: ps => ⟨ps.foldl (fun r q => .alt q.regex r) p.regex,
      ((p :: ps).map Piece.depth).foldl max 0 + 1, true⟩

/-- Repeats the last piece. -/
def repeatLast? (min : Nat) (max : Option Nat) : List Piece → Option (List Piece)
  | [] => none
  | p :: ps =>
    if p.repeatable then some (⟨.times p.regex min max, p.depth + 1, true⟩ :: ps) else none

/-- Drops the mark of a repetition that prefers to be short. -/
def dropLazy : List Char → List Char
  | '?' :: s => s
  | s => s

/-- The bounds of a counted repetition behind its brace. -/
def bounds? (f : Flags) (s : List Char) : Option ((Nat × Option Nat) × List Char) := do
  let (low, s) ← count? f (skip f s)
  let low ← low
  match s with
  | '}' :: rest => some ((low, some low), dropLazy (skip f rest))
  | ',' :: rest =>
    match skip f rest with
    | '}' :: rest => some ((low, none), dropLazy (skip f rest))
    | rest => do
      let (high, s) ← count? f rest
      let high ← high
      match s with
      | '}' :: rest =>
        if low ≤ high then some ((low, some high), dropLazy (skip f rest)) else none
      | _ => none
  | _ => none

/-- Turns a mode on or off. -/
def setFlag? (f : Flags) (on : Bool) : Char → Option Flags
  | 'i' => some { f with caseless := on }
  | 'm' => some { f with multiLine := on }
  | 's' => some { f with dotAll := on }
  | 'x' => some { f with extended := on }
  | 'R' => some { f with carriage := on }
  | 'u' => some { f with unicode := on }
  | 'U' => some f
  | _ => none

/-- The flags of a group up to its colon or closing bracket, none of them twice, and at least one
behind a hyphen. The last part of the result tells whether the colon was there. -/
def flags? (f : Flags) (seen : List Char) (last : Option Char) :
    List Char → Option (Flags × List Char × Bool × List Char)
  | [] => none
  | c :: s =>
    if c = ':' ∨ c = ')' then
      if last = some '-' then none else some (f, seen, decide (c = ':'), s)
    else if c ∈ seen then none
    else if c = '-' then flags? f (c :: seen) (some c) s
    else do
      let f ← setFlag? f (decide ('-' ∉ seen)) c
      flags? f (c :: seen) (some c) s

/-- Whether a character may stand in the name of a group. -/
def isNameChar (first : Bool) (c : Char) : Bool :=
  c == '_' || isAlphabetic c.toNat ||
    (!first && (c == '.' || c == '[' || c == ']' ||
      (CharClass.categories CharClass.numberCategories).contains c))

/-- The name of a group up to its angle bracket. -/
def groupName? (first : Bool) : List Char → Option (List Char × List Char)
  | [] => none
  | c :: s =>
    if c = '>' then if first then none else some ([], s)
    else if isNameChar first c then do
      let (name, s) ← groupName? false s
      some (c :: name, s)
    else none

/-- How a group starts. -/
inductive Opening
  /-- A group with its flags, and its name if it has one. -/
  | group (f : Flags) (name : Option (List Char))
  /-- Flags for the rest of the group around. -/
  | flags (f : Flags)

/-- The start of a group behind its bracket. -/
def opening? (f : Flags) (s : List Char) : Option (Opening × List Char) :=
  match skip f s with
  | '?' :: 'P' :: '<' :: rest => do
    let (name, rest) ← groupName? true rest
    some (.group f (some name), rest)
  | '?' :: '<' :: rest => do
    let (name, rest) ← groupName? true rest
    some (.group f (some name), rest)
  | '?' :: rest => do
    let (f, seen, colon, rest) ← flags? f [] none rest
    if colon then some (.group f none, rest)
    else if seen.isEmpty then none
    else some (.flags f, rest)
  | rest => some (.group f none, rest)

/-- Alternatives up to a closing bracket or the end of the text. `names` are the names of the groups
so far, `done` the alternatives before this one and `pieces` its pieces so far, the last of each
first. The fuel bounds the number of pieces. -/
def alternatives? : Nat → Flags → List (List Char) → List Piece → List Piece → List Char →
    Option (Piece × List (List Char) × List Char)
  | 0, _, _, _, _, _ => none
  | fuel + 1, f, names, done, pieces, s =>
    let add (r : Option Regex) (rest : List Char) :=
      r.bind fun r => alternatives? fuel f names done (⟨r, 0, true⟩ :: pieces) rest
    match skip f s with
    | [] => some (choice (sequence pieces :: done), names, [])
    | c :: rest =>
      if c = ')' then some (choice (sequence pieces :: done), names, c :: rest)
      else if c = '|' then alternatives? fuel f names (sequence pieces :: done) [] rest
      else if c = '(' then do
        let (opening, rest) ← opening? f rest
        match opening with
        | .flags f => alternatives? fuel f names done (⟨.empty, 0, false⟩ :: pieces) rest
        | .group inner name =>
          let names ← match name with
            | some n => if n ∈ names then none else some (n :: names)
            | none => some names
          let (p, names, rest) ← alternatives? fuel inner names [] [] rest
          match rest with
          | ')' :: rest =>
            alternatives? fuel f names done (⟨p.regex, p.depth + 1, true⟩ :: pieces) rest
          | _ => none
      else if c = '[' then do
        let (cls, depth, rest) ← bracketClass? f rest
        alternatives? fuel f names done (⟨.oneOf cls, depth, true⟩ :: pieces) rest
      else if c = '?' then do
        let pieces ← repeatLast? 0 (some 1) pieces
        alternatives? fuel f names done pieces (dropLazy rest)
      else if c = '*' then do
        let pieces ← repeatLast? 0 none pieces
        alternatives? fuel f names done pieces (dropLazy rest)
      else if c = '+' then do
        let pieces ← repeatLast? 1 none pieces
        alternatives? fuel f names done pieces (dropLazy rest)
      else if c = '{' then do
        let ((min, max), rest) ← bounds? f rest
        let pieces ← repeatLast? min max pieces
        alternatives? fuel f names done pieces rest
      else if c = '\\' then do
        let (p, rest) ← escape? f rest
        add (primitive? f p) rest
      else if c = '.' then add (dot? f) rest
      else if c = '^' then add (some (.anchor (startAnchor f))) rest
      else if c = '$' then add (some (.anchor (endAnchor f))) rest
      else add (literal? f c false) rest

/-- How deep a text may nest. -/
def maxDepth : Nat := 250

/-- The expression of a whole text. -/
def read? (text : List Char) : Option Regex := do
  let (p, _, rest) ← alternatives? (text.length + 1) {} [] [] [] text
  if rest.isEmpty ∧ p.depth ≤ maxDepth then some p.regex else none

end DocSelect.Regex
