import DocSelect.Proofs.FloatText
import DocSelect.Sql.Literal
import DocSelect.Sql.Token
/-!
# The tokens of a text that is put together from pieces

The tokens of a piece of text do not depend on the text before it, and on the text behind it only
through its first character. So the tokens of a text are found piece by piece.

* `Token.Scans` : a text has given tokens;
* `Token.Lexes` : a piece has given tokens in front of every text that may follow it;
* `Token.Lexes.append` : pieces put together have the tokens of both;
* `Literal.lexes_literal` : **the literal of a scalar is a piece by itself**, whatever the scalar
  is: it ends where the encoding ends, and its tokens spell the scalar.
-/

namespace DocSelect

namespace Token

/-! ## Texts and pieces of texts -/

/-- The text has these tokens, given fuel for each of them. -/
def Scans (s : List Char) (ts : List Token) : Prop :=
  ∀ fuel, ts.length < fuel → readFrom? fuel s = some ts

theorem Scans.nil : Scans [] [] := by
  intro fuel h
  cases fuel with
  | zero => exact absurd h (Nat.not_lt_zero _)
  | succ fuel => rfl

/-- The whole text is read: it is at least as long as its list of tokens. -/
theorem Scans.readAll? {s : List Char} {ts : List Token} (h : Scans s ts)
    (hlen : ts.length ≤ s.length) : Token.readAll? s = some ts :=
  h _ (Nat.lt_succ_of_le hlen)

/-- A blank separates tokens and is none. -/
theorem Scans.blank {c : Char} {s : List Char} {ts : List Token} (hc : isBlank c = true)
    (h : Scans s ts) : Scans (c :: s) ts := by
  intro fuel hf
  rw [← h fuel hf]
  cases fuel with
  | zero => rfl
  | succ fuel => simp only [readFrom?, List.dropWhile_cons, hc, if_true]

/-- The first token of a text is followed by the tokens of the rest. -/
theorem Scans.step {c : Char} {s rest : List Char} {t : Token} {ts : List Token}
    (hb : isBlank c = false) (hz : c ≠ '\x00') (hread : read? (c :: s) = some (t, rest))
    (h : Scans rest ts) : Scans (c :: s) (t :: ts) := by
  intro fuel hf
  cases fuel with
  | zero => exact absurd hf (Nat.not_lt_zero _)
  | succ fuel =>
    have hrest := h fuel (by simpa using hf)
    simp only [readFrom?, List.dropWhile_cons, hb, Bool.false_eq_true, if_false]
    split
    · next heq => exact absurd heq (List.cons_ne_nil c s)
    · next heq => exact absurd (List.cons.inj heq).1 hz
    · simp [hread, hrest]

/-- A piece of text has these tokens in front of every text that may follow it. -/
structure Lexes (Follows : List Char → Prop) (s : List Char) (ts : List Token) : Prop where
  /-- The tokens of the piece come before those of the rest. -/
  scans : ∀ {rest : List Char} {us : List Token}, Follows rest → Scans rest us →
    Scans (s ++ rest) (ts ++ us)
  /-- Each token takes a character at least. -/
  length_le : ts.length ≤ s.length

/-- Any text may follow. -/
def Anything (_ : List Char) : Prop := True

/-- What may follow a literal: nothing, a blank or a closing parenthesis. -/
def Closing (s : List Char) : Prop := ∀ c ∈ s.head?, c = ' ' ∨ c = ')'

theorem closing_nil : Closing [] := fun _ hc => nomatch hc

/-- What is lexed before any text that may follow is lexed as a whole text. -/
theorem Lexes.readAll? {Follows : List Char → Prop} {s : List Char} {ts : List Token}
    (h : Lexes Follows s ts) (hf : Follows []) : Token.readAll? s = some ts := by
  have hs := h.scans hf Scans.nil
  rw [List.append_nil, List.append_nil] at hs
  exact hs.readAll? h.length_le

theorem Lexes.nil {Follows : List Char → Prop} : Lexes Follows [] [] :=
  ⟨fun _ h => h, le_rfl⟩

/-- Pieces put together have the tokens of both. -/
theorem Lexes.append {P Q : List Char → Prop} {s t : List Char} {ts us : List Token}
    (hs : Lexes P s ts) (ht : Lexes Q t us) (hf : ∀ rest, Q rest → P (t ++ rest)) :
    Lexes Q (s ++ t) (ts ++ us) where
  scans := fun hq h => by
    rw [List.append_assoc, List.append_assoc]
    exact hs.scans (hf _ hq) (ht.scans hq h)
  length_le := by
    rw [List.length_append, List.length_append]
    exact Nat.add_le_add hs.length_le ht.length_le

/-- A piece that any text may follow is put before any piece. -/
theorem Lexes.before {Q : List Char → Prop} {s t : List Char} {ts us : List Token}
    (hs : Lexes Anything s ts) (ht : Lexes Q t us) : Lexes Q (s ++ t) (ts ++ us) :=
  hs.append ht fun _ _ => trivial

/-- A piece that needs a closing character is put before a piece that starts with one. -/
theorem Lexes.closed {Q : List Char → Prop} {s t : List Char} {c : Char} {ts us : List Token}
    (hs : Lexes Closing s ts) (ht : Lexes Q (c :: t) us) (hc : c = ' ' ∨ c = ')') :
    Lexes Q (s ++ c :: t) (ts ++ us) :=
  hs.append ht fun rest _ d hd => by
    obtain rfl : c = d := by simpa using hd
    exact hc

/-- What is lexed before any text at all may be followed by less. -/
theorem Lexes.anything {Q : List Char → Prop} {s : List Char} {ts : List Token}
    (h : Lexes Anything s ts) : Lexes Q s ts :=
  ⟨fun _ => h.scans trivial, h.length_le⟩

/-- A piece with one token. -/
theorem Lexes.single {P : List Char → Prop} {c : Char} {s : List Char} {t : Token}
    (hb : isBlank c = false) (hz : c ≠ '\x00')
    (hread : ∀ rest, P rest → read? (c :: s ++ rest) = some (t, rest)) :
    Lexes P (c :: s) [t] where
  scans := fun hp h => Scans.step hb hz (hread _ hp) h
  length_le := by simp

theorem lexes_blank : Lexes Anything [' '] [] :=
  ⟨fun _ h => h.blank (by decide), by simp⟩

/-- A token that neither ends a statement nor stands for a value from elsewhere, and no comment. -/
def isInert : Token → Bool
  | .comment | .sign [';'] | .variable _ => false
  | _ => true

/-! ## Marks and words -/

theorem lexes_open : Lexes Anything ['('] [.sign ['(']] :=
  .single (by decide) (by decide) fun _ _ => rfl

theorem lexes_close : Lexes Anything [')'] [.sign [')']] :=
  .single (by decide) (by decide) fun _ _ => rfl

theorem lexes_comma : Lexes Anything [','] [.sign [',']] :=
  .single (by decide) (by decide) fun _ _ => rfl

/-- A word that starts no blob: a letter other than `x`, and characters of words. -/
def isPlainWord : List Char → Bool
  | [] => false
  | c :: w => c.isAlpha && c != 'x' && c != 'X' && w.all isWordChar

/-- No character of a word follows. -/
def EndsWord (s : List Char) : Prop := ∀ c ∈ s.head?, isWordChar c = false

theorem Closing.endsWord {s : List Char} (h : Closing s) : EndsWord s := fun c hc => by
  rcases h c hc with rfl | rfl <;> decide

theorem not_isDigit_of_isAlpha {c : Char} (h : c.isAlpha = true) : c.isDigit = false := by
  rw [Bool.eq_false_iff]
  intro hd
  unfold Char.isAlpha Char.isUpper Char.isLower at h
  unfold Char.isDigit at hd
  simp only [Bool.or_eq_true, Bool.and_eq_true, decide_eq_true_iff] at h hd
  rcases h with h | h
  · exact absurd (UInt32.le_trans h.1 hd.2) (by decide)
  · exact absurd (UInt32.le_trans h.1 hd.2) (by decide)

/-- What starts with a letter is a word, but for blobs. -/
theorem read?_of_isAlpha {c : Char} {s : List Char} (h : c.isAlpha = true) (hx : c ≠ 'x')
    (hX : c ≠ 'X') : read? (c :: s) = some (leadingWord (c :: s)) := by
  have hne (e : Char) (he : e.isAlpha = false) : c ≠ e := ne_of_class h e he
  have hd := not_isDigit_of_isAlpha h
  -- every other kind of token starts with a character that is no letter
  have hw : isWordChar c = true := by simp [isWordChar, Char.isAlphanum, h]
  simp [read?, hd, hw, hx, hX, hne '\'' (by decide), hne '"' (by decide), hne '\x60' (by decide),
    hne '[' (by decide), hne '?' (by decide), hne '@' (by decide), hne ':' (by decide),
    hne '$' (by decide), hne '#' (by decide)]

/-- A plain word is one token before anything that ends a word. -/
theorem lexes_word {w : List Char} (hw : isPlainWord w = true) : Lexes EndsWord w [.word w] := by
  cases w with
  | nil => exact absurd hw (by decide)
  | cons c w =>
    simp only [isPlainWord, Bool.and_eq_true, bne_iff_ne] at hw
    obtain ⟨⟨⟨hc, hx⟩, hX⟩, hall⟩ := hw
    have hne (e : Char) (he : e.isAlpha = false) : c ≠ e := ne_of_class hc e he
    refine .single ?_ (hne _ (by decide)) fun rest hr => ?_
    · simp [isBlank, hne ' ' (by decide), hne '\t' (by decide), hne '\n' (by decide),
        hne '\x0c' (by decide), hne '\r' (by decide)]
    · have hword : (c :: w).all isWordChar = true := by
        simp [hall, isWordChar, Char.isAlphanum, hc]
      obtain ⟨htake, hdrop⟩ := takeWhile_dropWhile_append hword hr
      rw [List.cons_append, read?_of_isAlpha hc hx hX, leadingWord]
      rw [List.cons_append] at htake hdrop
      rw [htake, hdrop]

/-! ## Literals of strings -/

theorem quotedFrom?_cons {quote c : Char} {s : List Char} (hc : c ≠ quote) (hs : s ≠ []) :
    quotedFrom? quote (c :: s) = (quotedFrom? quote s).map fun r => (c :: r.1, r.2) := by
  cases s with
  | nil => exact absurd rfl hs
  | cons d s => simp [quotedFrom?, hc]

/-- A string with doubled quotes ends at its quote, which no quote follows. -/
theorem quotedFrom?_doubleQuotes (s : List Char) {rest : List Char} (hr : Closing rest) :
    quotedFrom? '\'' (Literal.doubleQuotes s ++ '\'' :: rest) = some (s, rest) := by
  induction s with
  | nil =>
    -- no third quote may stand behind the literal, or the two would be one doubled quote
    cases rest with
    | nil => rfl
    | cons d rest =>
      have hd : d ≠ '\'' := by
        rcases hr d (by simp) with rfl | rfl <;> decide
      simp [Literal.doubleQuotes, quotedFrom?, hd]
  | cons c s ih =>
    by_cases hc : c = '\''
    · simp [Literal.doubleQuotes, hc, quotedFrom?, ih]
    · rw [Literal.doubleQuotes, if_neg hc, List.cons_append, quotedFrom?_cons hc (by simp), ih]
      rfl

/-- A string in quotes is one token, for its quotes are doubled. -/
theorem lexes_string (s : List Char) :
    Lexes Closing ('\'' :: (Literal.doubleQuotes s ++ ['\''])) [.string s] :=
  .single (by decide) (by decide) fun rest hr => by
    rw [List.cons_append, List.append_assoc, List.singleton_append]
    show (quotedFrom? '\'' _).map _ = _
    rw [quotedFrom?_doubleQuotes s hr]
    rfl

/-! ## Literals of bytes -/

theorem hexDigitUpper_spec (n : ℕ) :
    isHexDigit (hexDigitUpper n) = true ∧ hexDigitValue (hexDigitUpper n) = n % 16 := by
  have h : ∀ k < 16, isHexDigit (hexDigitUpper k) = true ∧ hexDigitValue (hexDigitUpper k) = k := by
    decide
  have hmod : hexDigitUpper n = hexDigitUpper (n % 16) := by
    simp [hexDigitUpper, hexDigit]
  rw [hmod]
  exact h _ (Nat.mod_lt _ (by decide))

/-- Two digits for each byte spell the bytes. -/
theorem blobFrom?_hexBytes (bytes : List UInt8) (rest : List Char) :
    blobFrom? (Literal.hexBytes bytes ++ '\'' :: rest) = some (bytes, rest) := by
  induction bytes with
  | nil => rfl
  | cons b bytes ih =>
    obtain ⟨hhigh, hhigh'⟩ := hexDigitUpper_spec (b.toNat / 16)
    obtain ⟨hlow, hlow'⟩ := hexDigitUpper_spec b.toNat
    -- the two digits spell the byte
    have hvalue : (hexValue [hexDigitUpper (b.toNat / 16), hexDigitUpper b.toNat]).toUInt8 = b := by
      have hb := b.toNat_lt
      simp only [hexValue, List.foldl_cons, List.foldl_nil, hhigh', hlow']
      rw [show (0 * 16 + b.toNat / 16 % 16) * 16 + b.toNat % 16 = b.toNat by omega]
      simp
    have hquote : hexDigitUpper (b.toNat / 16) ≠ '\'' := ne_of_class hhigh '\'' (by decide)
    rw [Literal.hexBytes, List.flatMap_cons]
    simp only [List.cons_append, List.nil_append]
    rw [blobFrom?, if_pos ⟨hhigh, hlow⟩, ← Literal.hexBytes, ih, hvalue]
    · rfl
    · exact hquote

/-- Bytes in hexadecimal digits are one token. -/
theorem lexes_blob (bytes : List UInt8) :
    Lexes Anything ('X' :: '\'' :: (Literal.hexBytes bytes ++ ['\''])) [.blob bytes] :=
  .single (by decide) (by decide) fun rest _ => by
    rw [List.cons_append, List.cons_append, List.append_assoc, List.singleton_append]
    show (blobFrom? _).map _ = _
    rw [blobFrom?_hexBytes]
    rfl

/-! ## Literals of numbers -/

theorem read?_of_isDigit {c : Char} {s : List Char} (h : c.isDigit = true) :
    read? (c :: s) = number? (c :: s) := by
  have hne (e : Char) (he : e.isDigit = false) : c ≠ e := ne_of_class h e he
  simp [read?, h, hne '\'' (by decide), hne '"' (by decide), hne '\x60' (by decide),
    hne '[' (by decide)]

theorem Closing.not_isDigit {s : List Char} (h : Closing s) : ∀ c ∈ s.head?, c.isDigit = false :=
  fun c hc => by
    rcases h c hc with rfl | rfl <;> decide

theorem Closing.exponent {s : List Char} (h : Closing s) : exponent s = [] := by
  cases s with
  | nil => rfl
  | cons c s => rcases h c (by simp) with rfl | rfl <;> rfl

/-- Digits alone are the text of a number. -/
theorem numberText_digits {ds rest : List Char} (hds : ds.all Char.isDigit = true)
    (hr : Closing rest) : numberText (ds ++ rest) = ds := by
  obtain ⟨htake, hdrop⟩ := takeWhile_dropWhile_append hds hr.not_isDigit
  have hhead (c : Char) (s : List Char) (h : rest = c :: s) : c = ' ' ∨ c = ')' :=
    hr c (by simp [h])
  -- neither a point nor an exponent follows the digits
  unfold numberText
  simp only [htake, hdrop, hr.exponent, List.append_nil]
  split
  · next x d s hx =>
    rcases hhead _ _ rfl with rfl | rfl <;> rfl
  · next s => exact absurd (hhead _ _ rfl) (by decide)
  · rfl

/-- Digits around a point are the text of a number. -/
theorem numberText_pointed {whole fraction rest : List Char}
    (h : Decimal.Pointed whole fraction) (hr : Closing rest) :
    numberText (whole ++ '.' :: fraction ++ rest) = whole ++ '.' :: fraction := by
  have hdot : ∀ c ∈ ('.' :: fraction ++ rest).head?, c.isDigit = false := by
    simp
  obtain ⟨htake, hdrop⟩ := takeWhile_dropWhile_append h.whole_all hdot
  obtain ⟨htake', hdrop'⟩ := takeWhile_dropWhile_append h.fraction_all hr.not_isDigit
  obtain ⟨d, fraction, rfl⟩ := List.exists_cons_of_ne_nil h.fraction_ne_nil
  rw [List.append_assoc]
  unfold numberText
  simp only [htake, hdrop]
  simp only [List.cons_append] at htake' hdrop' ⊢
  split
  · next x e s heq =>
    obtain ⟨rfl, rfl, rfl⟩ : '.' = x ∧ d = e ∧ fraction ++ rest = s := by simpa using heq
    simp [htake', hdrop', hr.exponent]
  · next s _ heq =>
    obtain rfl : d :: (fraction ++ rest) = s := by simpa using heq
    simp [htake', hdrop', hr.exponent]
  · next hne _ => exact (hne _ rfl).elim

/-- A text of a number is a token before every closing character. -/
theorem lexes_number {ds : List Char} {c : Char} {w : List Char} (hds : ds = c :: w)
    (hc : c.isDigit = true) (htext : ∀ rest, Closing rest → numberText (ds ++ rest) = ds) :
    Lexes Closing ds [.number ds] := by
  have hne (e : Char) (he : e.isDigit = false) : c ≠ e := ne_of_class hc e he
  rw [hds]
  refine .single ?_ (hne _ (by decide)) fun rest hr => ?_
  · simp [isBlank, hne ' ' (by decide), hne '\t' (by decide), hne '\n' (by decide),
      hne '\x0c' (by decide), hne '\r' (by decide)]
  · rw [List.cons_append, read?_of_isDigit hc, ← List.cons_append, ← hds, number?, htext rest hr,
      List.drop_left]
    -- a number with a letter behind it is no token
    have hend := hr.endsWord
    cases rest with
    | nil => rfl
    | cons e s => simp [hend e (by simp)]

/-- A minus sign before a number is a token of its own: no second one follows it. -/
theorem lexes_minus {ds : List Char} {c : Char} {w : List Char} (hds : ds = c :: w)
    (hc : c.isDigit = true) {ts : List Token} (h : Lexes Closing ds ts) :
    Lexes Closing ('-' :: ds) (.sign ['-'] :: ts) := by
  have hne (e : Char) (he : e.isDigit = false) : c ≠ e := ne_of_class hc e he
  have hminus : Lexes (fun rest => ∃ s, rest = c :: s) ['-'] [.sign ['-']] :=
    .single (by decide) (by decide) fun rest hr => by
      obtain ⟨s, rfl⟩ := hr
      -- a comment would need a second minus sign, an arrow a `>`
      have harrow : ('>' == c) = false := beq_eq_false_iff_ne.2 (hne '>' (by decide)).symm
      simp [read?, sign?, isWordChar, longSigns, shortSigns, List.find?, List.isPrefixOf,
        hne '-' (by decide), harrow]
  exact hminus.append h fun rest _ => ⟨w ++ rest, by rw [hds, List.cons_append]⟩

end Token

/-! ## Literals of scalars -/

namespace Literal

open Token

/-- A number with its sign: a minus sign is a token of its own. -/
def signedTokens (negative : Bool) (digits : List Char) : List Token :=
  if negative then [.sign ['-'], .number digits] else [.number digits]

/-- The tokens of the literal of a number. -/
def numberTokens : Number → List Token
  | .whole w => signedTokens (w.val < 0) (natDigits w.val.natAbs)
  | .float x => signedTokens x.negative (x.wholeDigits ++ '.' :: x.fractionDigits)

/-- The tokens of a string literal. -/
def stringTokens (s : List Char) : List Token :=
  if '\x00' ∈ s then
    [.word "CAST".toList, .sign ['('], .blob (utf8Bytes s), .word "AS".toList, .word "TEXT".toList,
      .sign [')']]
  else [.string s]

/-- The tokens of the literal of a scalar. -/
def tokens : Scalar → List Token
  | .bool true => [.word "TRUE".toList]
  | .bool false => [.word "FALSE".toList]
  | .number n => numberTokens n
  | .string s => stringTokens s.toList

/-- No comment, no end of a statement and no placeholder is in a literal. -/
theorem isInert_of_mem_tokens {v : Scalar} {t : Token} (h : t ∈ tokens v) : t.isInert = true := by
  have hsigned {negative : Bool} {digits : List Char} (h : t ∈ signedTokens negative digits) :
      t.isInert = true := by
    unfold signedTokens at h
    split at h
    · simp only [List.mem_cons, List.not_mem_nil, or_false] at h
      rcases h with rfl | rfl <;> rfl
    · simp only [List.mem_cons, List.not_mem_nil, or_false] at h
      rw [h]
      rfl
  match v with
  | .bool true | .bool false =>
    obtain rfl := List.mem_singleton.1 h
    rfl
  | .number (.whole w) => exact hsigned h
  | .number (.float x) => exact hsigned h
  | .string s =>
    simp only [tokens, stringTokens] at h
    split at h
    · simp only [List.mem_cons, List.not_mem_nil, or_false] at h
      rcases h with rfl | rfl | rfl | rfl | rfl | rfl <;> rfl
    · obtain rfl := List.mem_singleton.1 h
      rfl

theorem lexes_signed {negative : Bool} {ds w : List Char} {c : Char} (hds : ds = c :: w)
    (hc : c.isDigit = true) (htext : ∀ rest, Closing rest → numberText (ds ++ rest) = ds) :
    Lexes Closing ((if negative then ['-'] else []) ++ ds) (signedTokens negative ds) := by
  have h := lexes_number hds hc htext
  cases negative
  · exact h
  · exact lexes_minus hds hc h

theorem lexes_number (n : Number) : Lexes Closing (numberChars n) (numberTokens n) := by
  cases n with
  | whole w =>
    obtain ⟨c, ds, hds, hc, -⟩ := natDigits_eq_cons w.val.natAbs
    rw [numberChars, intText_eq]
    exact lexes_signed hds hc fun rest hr => numberText_digits (all_isDigit_natDigits _) hr
  | float x =>
    obtain ⟨c, ds, hds, hc, -⟩ :=
      exists_eq_cons_of_all x.pointed_digits.whole_ne_nil x.pointed_digits.whole_all
    have hcons : x.wholeDigits ++ '.' :: x.fractionDigits =
        c :: (ds ++ '.' :: x.fractionDigits) := by
      rw [hds, List.cons_append]
    rw [numberChars, Binary64.pointedText_eq, Binary64.signText]
    exact lexes_signed hcons hc fun rest hr => numberText_pointed x.pointed_digits hr

theorem lexes_quoted (s : List Char) : Lexes Closing (quotedChars s) (stringTokens s) := by
  unfold quotedChars stringTokens
  split
  · -- the bytes, and around them the marks of the conversion to text
    have hwords : Lexes Anything (' ' :: ("AS".toList ++ ' ' :: ("TEXT".toList ++ [')'])))
        [.word "AS".toList, .word "TEXT".toList, .sign [')']] := by
      have htext := (lexes_word (w := "TEXT".toList) (by decide)).append lexes_close
        fun rest _ => by
          rintro c ⟨rfl⟩
          decide
      have has := (lexes_word (w := "AS".toList) (by decide)).append (lexes_blank.before htext)
        fun rest _ => by
          rintro c ⟨rfl⟩
          decide
      exact lexes_blank.before has
    have hcast := (lexes_word (w := "CAST".toList) (by decide)).append
      (lexes_open.before ((lexes_blob (utf8Bytes s)).before hwords)) fun rest _ => by
        rintro c ⟨rfl⟩
        decide
    have hchars : hexText s = "CAST".toList ++ (['('] ++ ('X' :: '\'' ::
        (hexBytes (utf8Bytes s) ++ ['\'']) ++
          (' ' :: ("AS".toList ++ ' ' :: ("TEXT".toList ++ [')']))))) := by
      have hbefore : "CAST(X'".toList = "CAST".toList ++ ['(', 'X', '\''] := rfl
      have hbehind : "' AS TEXT)".toList =
          '\'' :: ' ' :: ("AS".toList ++ ' ' :: ("TEXT".toList ++ [')'])) := rfl
      unfold hexText
      simp only [hbefore, hbehind, List.append_assoc, List.cons_append, List.nil_append]
    rw [hchars]
    exact hcast.anything
  · exact lexes_string s

/-- **The literal of a scalar is a piece by itself**, whatever the scalar is. -/
theorem lexes_literal (v : Scalar) : Lexes Closing (chars v) (tokens v) := by
  have hword (w : List Char) (hw : isPlainWord w = true) : Lexes Closing w [.word w] :=
    ⟨fun hr => (lexes_word hw).scans hr.endsWord, (lexes_word hw).length_le⟩
  match v with
  | .bool true => exact hword "TRUE".toList (by decide)
  | .bool false => exact hword "FALSE".toList (by decide)
  | .number n => exact lexes_number n
  | .string s => exact lexes_quoted s.toList

end Literal

end DocSelect
