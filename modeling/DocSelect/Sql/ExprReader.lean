import DocSelect.Sql.Expr
import DocSelect.Sql.Token
/-!
# Reading expressions

The grammar of expressions: `OR` binds weaker than `AND`, `AND` weaker than equality, `IS NULL` and
the pattern matches, and these weaker than the four order comparisons. Operators of one level group
to the left.

* `Expr.ofTokens?` reads tokens, `Expr.ofText?` a text.
-/

namespace DocSelect.Expr

/-- Whether a token is a word, its letters of either case. -/
def isWord (word : String) : Token → Bool
  | .word name => name.map Char.toLower == word.toList
  | _ => false

/-- The comparisons of the level of equality that are marks. -/
def equalitySign? : List Char → Option Comparison
  | ['='] | ['=', '='] => some .eq
  | ['<', '>'] | ['!', '='] => some .ne
  | _ => none

/-- The comparisons of the level of equality that are words. -/
def equalityWord? (t : Token) : Option Comparison :=
  if isWord "like" t then some .like
  else if isWord "glob" t then some .glob
  else if isWord "regexp" t then some .regexp
  else none

/-- The order comparisons. -/
def orderSign? : List Char → Option Comparison
  | ['<'] => some .lt
  | ['<', '='] => some .lte
  | ['>'] => some .gt
  | ['>', '='] => some .gte
  | _ => none

/-- How tightly operators bind. -/
inductive Level
  /-- `OR`. -/
  | disjunction
  /-- `AND`. -/
  | conjunction
  /-- Equality and what binds like it. -/
  | equality
  /-- The order comparisons. -/
  | order

/-- The next tighter level; the order comparisons have operands without operators. -/
def Level.tighter? : Level → Option Level
  | disjunction => some conjunction
  | conjunction => some equality
  | equality => some order
  | order => none

/-- What may follow an operand at a level. -/
inductive Follower
  /-- An operator with a second operand. -/
  | binary (make : Expr → Expr → Expr) (rest : List Token)
  /-- An operator without one. -/
  | postfixed (make : Expr → Expr) (rest : List Token)
  /-- No operator of the level. -/
  | none

/-- The operator at the start of tokens, if it is of the level. -/
def follower (level : Level) (ts : List Token) : Follower :=
  match level, ts with
  | .disjunction, t :: rest => if isWord "or" t then .binary or rest else .none
  | .conjunction, t :: rest => if isWord "and" t then .binary and rest else .none
  | .order, .sign mark :: rest =>
    match orderSign? mark with
    | some op => .binary (compare op) rest
    | none => .none
  | .equality, .sign mark :: rest =>
    match equalitySign? mark with
    | some op => .binary (compare op) rest
    | none => .none
  | .equality, t :: rest =>
    match equalityWord? t, rest with
    | some op, _ => .binary (compare op) rest
    | none, u :: rest =>
      if isWord "is" t then
        if isWord "null" u then .postfixed (fun e => isNull e true) rest
        else
          match rest with
          | v :: rest =>
            if isWord "not" u ∧ isWord "null" v then .postfixed (fun e => isNull e false) rest
            else .none
          | [] => .none
      else .none
    | none, [] => .none
  | _, _ => .none

/-- The value of a number with its sign. -/
def numberValue? (negative : Bool) (digits : List Char) : Option SqlValue :=
  match digits with
  | '0' :: x :: d :: rest =>
    if x = 'x' ∨ x = 'X' then SqlValue.ofHexadecimal? negative (d :: rest)
    else decimalValue? negative digits
  | _ => decimalValue? negative digits
where
  /-- The value of a number in base ten with its sign: digits alone are an integer. -/
  decimalValue? (negative : Bool) (digits : List Char) : Option SqlValue :=
    let signed := if negative then '-' :: digits else digits
    if digits.all Char.isDigit then (readInt? signed).map SqlValue.ofInt
    else SqlValue.ofFloatText? signed

/-- The functions by their names. -/
def functionOf? (t : Token) : Option JsonFunction :=
  JsonFunction.all.find? fun f => isWord f.name t

/-- A literal, a placeholder or a column. -/
def atom? : List Token → Option (Expr × List Token)
  | .string s :: rest => some (value (.text (utf8Bytes s)), rest)
  | .blob bytes :: rest => some (value (.blob bytes), rest)
  | .number digits :: rest => (numberValue? false digits).map fun v => (value v, rest)
  | .sign ['-'] :: .number digits :: rest =>
    (numberValue? true digits).map fun v => (value v, rest)
  | .variable ['?'] :: rest => some (hole, rest)
  | .word name :: rest =>
    let t : Token := .word name
    if isWord "true" t then some (flag true, rest)
    else if isWord "false" t then some (flag false, rest)
    else if isWord "null" t then some (value .null, rest)
    else some (column (String.ofList name), rest)
  | .quotedName name :: rest => some (column (String.ofList name), rest)
  | _ => none

/-- A mark. -/
def mark? (mark : List Char) : List Token → Option (List Token)
  | .sign m :: rest => if m = mark then some rest else none
  | _ => none

/-- A given word. -/
def word? (word : String) : List Token → Option (List Token)
  | t :: rest => if isWord word t then some rest else none
  | [] => none

mutual
/-- An expression of a level. The fuel bounds the depth. -/
def read? (fuel : Nat) (level : Level) (ts : List Token) : Option (Expr × List Token) :=
  match fuel with
  | 0 => none
  | fuel + 1 => do
    let (e, rest) ← match level.tighter? with
      | some tighter => read? fuel tighter ts
      | none => operand? fuel ts
    follow? fuel level e rest
termination_by structural fuel
/-- The operators of a level behind an operand, with their operands. -/
def follow? (fuel : Nat) (level : Level) (e : Expr) (ts : List Token) :
    Option (Expr × List Token) :=
  match fuel with
  | 0 => none
  | fuel + 1 =>
    match follower level ts with
    | .none => some (e, ts)
    | .postfixed make rest => follow? fuel level (make e) rest
    | .binary make rest => do
      let (right, rest) ← match level.tighter? with
        | some tighter => read? fuel tighter rest
        | none => operand? fuel rest
      follow? fuel level (make e right) rest
termination_by structural fuel
/-- An expression without operators. -/
def operand? (fuel : Nat) (ts : List Token) : Option (Expr × List Token) :=
  match fuel with
  | 0 => none
  | fuel + 1 =>
    match ts with
    | .sign ['('] :: rest => do
      let (e, rest) ← read? fuel .disjunction rest
      let rest ← mark? [')'] rest
      some (e, rest)
    | t :: .sign ['('] :: rest =>
      match functionOf? t with
      | some f => do
        let (a, rest) ← read? fuel .disjunction rest
        let rest ← mark? [','] rest
        let (b, rest) ← read? fuel .disjunction rest
        let rest ← mark? [')'] rest
        some (call f a b, rest)
      | none =>
        if isWord "cast" t then do
          let (e, rest) ← read? fuel .disjunction rest
          let rest ← word? "as" rest
          let rest ← word? "text" rest
          let rest ← mark? [')'] rest
          some (castText e, rest)
        else none
    | ts => atom? ts
termination_by structural fuel
end

/-- Reads tokens. -/
def ofTokens? (ts : List Token) : Option Expr := do
  let (e, rest) ← read? (8 * ts.length + 8) .disjunction ts
  if rest.isEmpty then some e else none

/-- Reads a text. Comments mean nothing. -/
def ofText? (s : List Char) : Option Expr := do
  let ts ← Token.readAll? s
  ofTokens? (ts.filter fun t => t != .comment)

end DocSelect.Expr
