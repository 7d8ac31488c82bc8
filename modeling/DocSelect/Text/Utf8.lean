/-!
# Text as bytes

Positions and stored data count bytes of the UTF-8 encoding.

* `utf8Length` is the number of bytes of a list of characters.
* `utf8Bytes` are the bytes themselves, and `byteLess` is their order.
-/

namespace DocSelect

/-- The number of bytes of the encoded characters. -/
def utf8Length : List Char → Nat
  | [] => 0
  | c :: rest => c.utf8Size + utf8Length rest

@[simp] theorem utf8Length_nil : utf8Length [] = 0 := rfl

@[simp] theorem utf8Length_cons (c : Char) (s : List Char) :
    utf8Length (c :: s) = c.utf8Size + utf8Length s := rfl

@[simp] theorem utf8Length_append (s t : List Char) :
    utf8Length (s ++ t) = utf8Length s + utf8Length t := by
  induction s with
  | nil => simp
  | cons c s ih => simp [ih, Nat.add_assoc]

/-- The bytes of one character. -/
def utf8BytesOf (c : Char) : List UInt8 :=
  let n := c.toNat
  if n < 0x80 then [n.toUInt8]
  else if n < 0x800 then [(0xC0 + n / 64).toUInt8, (0x80 + n % 64).toUInt8]
  else if n < 0x10000 then
    [(0xE0 + n / 4096).toUInt8, (0x80 + n / 64 % 64).toUInt8, (0x80 + n % 64).toUInt8]
  else
    [(0xF0 + n / 262144).toUInt8, (0x80 + n / 4096 % 64).toUInt8,
      (0x80 + n / 64 % 64).toUInt8, (0x80 + n % 64).toUInt8]

/-- The bytes of the encoded characters. -/
def utf8Bytes (s : List Char) : List UInt8 := s.flatMap utf8BytesOf

/-- The order of two lists of characters. The bytes of the encoding order texts as the characters
do, so the bytes need not be formed. -/
def compareChars : List Char → List Char → Ordering
  | [], [] => .eq
  | [], _ :: _ => .lt
  | _ :: _, [] => .gt
  | a :: s, b :: t => if a < b then .lt else if b < a then .gt else compareChars s t

/-- The order of two texts by the bytes of their encoding. -/
def compareText (a b : String) : Ordering := compareChars a.toList b.toList

end DocSelect
