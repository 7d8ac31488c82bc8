import DocSelect.Text.Utf8
/-!
# Text from bytes

Bytes are read as UTF-8 in two ways. The strict one takes well-formed text only and says where it
ends; the other reads any bytes.

* `decodeUtf8` is the strict reading, `Utf8Error.message` words its failure.
* `looseCodes` are the code points of any bytes.
-/

namespace DocSelect

/-- Where bytes stop being well-formed text. -/
structure Utf8Error where
  /-- The number of bytes before. -/
  index : Nat
  /-- The number of bytes that are wrong; none if the text only ends too soon. -/
  wrong : Option Nat
  deriving DecidableEq

/-- The failure in words. -/
def Utf8Error.message (e : Utf8Error) : String :=
  match e.wrong with
  | some n =>
    "invalid utf-8 sequence of " ++ toString n ++ " bytes from index " ++ toString e.index
  | none => "incomplete utf-8 byte sequence from index " ++ toString e.index

/-- A byte that continues a character. -/
def isContinuation (b : UInt8) : Bool := 0x80 ≤ b.toNat && b.toNat ≤ 0xBF

/-- The bounds of the second byte of a character of three or four bytes: no character has two
encodings, and surrogates have none. -/
def secondBounds (lead : UInt8) : Nat × Nat :=
  match lead.toNat with
  | 0xE0 => (0xA0, 0xBF)
  | 0xED => (0x80, 0x9F)
  | 0xF0 => (0x90, 0xBF)
  | 0xF4 => (0x80, 0x8F)
  | _ => (0x80, 0xBF)

/-- The number of bytes of the character that starts with a byte; zero if none does. -/
def leadWidth (b : UInt8) : Nat :=
  let n := b.toNat
  if n < 0x80 then 1
  else if 0xC2 ≤ n ∧ n ≤ 0xDF then 2
  else if 0xE0 ≤ n ∧ n ≤ 0xEF then 3
  else if 0xF0 ≤ n ∧ n ≤ 0xF4 then 4
  else 0

/-- The low six bits of a byte. -/
def lowBits (b : UInt8) : Nat := b.toNat % 64

/-- Whether a byte may be the second one behind `lead`. -/
def isSecond (lead b : UInt8) : Bool :=
  (secondBounds lead).1 ≤ b.toNat && b.toNat ≤ (secondBounds lead).2

/-- The first character of bytes and the number of its bytes, or what is wrong with it. -/
def firstChar : List UInt8 → Except (Option Nat) (Char × Nat)
  | [] => .error none
  | a :: rest =>
    match leadWidth a, rest with
    | 1, _ => .ok (Char.ofNat a.toNat, 1)
    | 2, [] => .error none
    | 2, b :: _ =>
      if isContinuation b then .ok (Char.ofNat (a.toNat % 32 * 64 + lowBits b), 2)
      else .error (some 1)
    | 3, [] => .error none
    | 3, b :: rest =>
      if !isSecond a b then .error (some 1)
      else
        match rest with
        | [] => .error none
        | c :: _ =>
          if isContinuation c then
            .ok (Char.ofNat ((a.toNat % 16 * 64 + lowBits b) * 64 + lowBits c), 3)
          else .error (some 2)
    | 4, [] => .error none
    | 4, b :: rest =>
      if !isSecond a b then .error (some 1)
      else
        match rest with
        | [] => .error none
        | c :: rest =>
          if !isContinuation c then .error (some 2)
          else
            match rest with
            | [] => .error none
            | d :: _ =>
              if isContinuation d then
                .ok (Char.ofNat
                  (((a.toNat % 8 * 64 + lowBits b) * 64 + lowBits c) * 64 + lowBits d), 4)
              else .error (some 3)
    | _, _ => .error (some 1)

/-- The characters of bytes behind `index` others. The fuel bounds their number. -/
def decodeFrom : Nat → Nat → List UInt8 → Except Utf8Error (List Char)
  | 0, _, _ | _, _, [] => .ok []
  | fuel + 1, index, bytes =>
    match firstChar bytes with
    | .error wrong => .error ⟨index, wrong⟩
    | .ok (c, width) => do
      let cs ← decodeFrom fuel (index + width) (bytes.drop width)
      .ok (c :: cs)

/-- The characters of well-formed bytes. -/
def decodeUtf8 (bytes : List UInt8) : Except Utf8Error (List Char) :=
  decodeFrom bytes.length 0 bytes

/-- The code point of a character that was put together from any bytes: what is no character is
read as the replacement character. -/
def looseCode (n : Nat) : Nat :=
  if n < 0x80 ∨ (0xD800 ≤ n ∧ n < 0xE000) ∨ n = 0xFFFE ∨ n = 0xFFFF then 0xFFFD else n

/-- The bits of a first byte that belong to the code point. -/
def leadBits (b : UInt8) : Nat :=
  let n := b.toNat
  if n < 0xE0 then n % 32
  else if n < 0xF0 then n % 16
  else if n < 0xF8 then n % 8
  else if n < 0xFC then n % 4
  else if n < 0xFE then n % 2
  else 0

/-- The code points of any bytes, up to a zero byte. A first byte takes all bytes behind it that
continue a character; `open?` is the code point so far of a character that may go on. -/
def looseCodesFrom (open? : Option Nat) : List UInt8 → List Nat
  | [] => (open?.map looseCode).toList
  | b :: rest =>
    if b = 0 then (open?.map looseCode).toList
    else
      match open? with
      | some n =>
        if isContinuation b then looseCodesFrom (some (n * 64 + lowBits b)) rest
        else if 0xC0 ≤ b.toNat then looseCode n :: looseCodesFrom (some (leadBits b)) rest
        else looseCode n :: b.toNat :: looseCodesFrom none rest
      | none =>
        if 0xC0 ≤ b.toNat then looseCodesFrom (some (leadBits b)) rest
        else b.toNat :: looseCodesFrom none rest

/-- The code points of any bytes, up to a zero byte. -/
def looseCodes (bytes : List UInt8) : List Nat := looseCodesFrom none bytes

/-- The bytes of a code point; surrogates have three. -/
def codeBytes (n : Nat) : List UInt8 :=
  if n < 0x80 then [n.toUInt8]
  else if n < 0x800 then [(0xC0 + n / 64).toUInt8, (0x80 + n % 64).toUInt8]
  else if n < 0x10000 then
    [(0xE0 + n / 4096).toUInt8, (0x80 + n / 64 % 64).toUInt8, (0x80 + n % 64).toUInt8]
  else
    [(0xF0 + n / 262144).toUInt8, (0x80 + n / 4096 % 64).toUInt8,
      (0x80 + n / 64 % 64).toUInt8, (0x80 + n % 64).toUInt8]

/-- The characters of any bytes; what is malformed becomes replacement characters. -/
def lossyChars (fuel : Nat) (bytes : List UInt8) : List Char :=
  match fuel with
  | 0 => []
  | fuel + 1 =>
    match bytes with
    | [] => []
    | b :: rest =>
      match firstChar (b :: rest) with
      | .ok (c, width) => c :: lossyChars fuel ((b :: rest).drop width)
      | .error wrong => '\uFFFD' :: lossyChars fuel ((b :: rest).drop (max 1 (wrong.getD 1)))

end DocSelect
