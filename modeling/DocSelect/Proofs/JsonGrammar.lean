import DocSelect.Json.Reader
import DocSelect.Proofs.SelectorReading
import DocSelect.Stored.Basic
import Mathlib.Data.List.TakeWhile
/-!
# A grammar of JSON text

The grammar says how far a value reaches in a text: a relation between the text and what is left of
it behind the value. What the value means is not part of it, and so different readers of JSON can be
compared with it: one may put the two escapes of a surrogate pair together and drop digits where the
other takes them as they stand.

* `JsonText.Leaf` : strings, numbers and constants;
* `JsonText.Value` : values whose arrays and objects nest at most so deep;
* `JsonText.value_of_read` : **what the reader of documents takes is a value of the grammar**;
* `JsonText.Value.takes` : a value has no zero character in it.
-/

namespace DocSelect

open Json.Read (skipBlank isBlank)

namespace JsonText

/-! ## A grammar of JSON -/

/-- The first text is the rest of a string with its closing quote, and then the second text. -/
inductive Chars : List Char → List Char → Prop
  /-- The closing quote. -/
  | close (rest : List Char) : Chars ('"' :: rest) rest
  /-- A character that stands for itself. -/
  | char {c : Char} {s rest : List Char} (hquote : c ≠ '"') (hescape : c ≠ '\\')
    (hc : ¬ c.toNat < 0x20) (h : Chars s rest) : Chars (c :: s) rest
  /-- An escape of one letter. -/
  | letter {c : Char} {s rest : List Char} (hc : c ∈ ['"', '\\', '/', 'b', 'f', 'n', 'r', 't'])
    (h : Chars s rest) : Chars ('\\' :: c :: s) rest
  /-- An escape of four digits. -/
  | unicode {a b c d : Char} {s rest : List Char}
    (hdigits : [a, b, c, d].all isHexDigit = true) (h : Chars s rest) :
    Chars ('\\' :: 'u' :: a :: b :: c :: d :: s) rest

/-- Digits, as many as there are, and at least one. -/
structure Digits (s rest : List Char) : Prop where
  /-- There is one. -/
  nonempty : (s.takeWhile Char.isDigit).isEmpty = false
  /-- What is left. -/
  rest_eq : rest = s.dropWhile Char.isDigit

/-- The digits before the point. -/
structure Whole (s rest : List Char) : Prop extends Digits s rest where
  /-- A zero stands alone. -/
  noZero : ¬ (1 < (s.takeWhile Char.isDigit).length ∧
    (s.takeWhile Char.isDigit).head? = some '0')

/-- A point and digits, or nothing. -/
inductive Fraction : List Char → List Char → Prop
  /-- Nothing. -/
  | none (s : List Char) : Fraction s s
  /-- The point and the digits. -/
  | some {s rest : List Char} (h : Digits s rest) : Fraction ('.' :: s) rest

/-- A letter, perhaps a sign, and digits; or nothing. -/
inductive Exponent : List Char → List Char → Prop
  /-- Nothing. -/
  | none (s : List Char) : Exponent s s
  /-- The letter, the sign and the digits. -/
  | some {mark : Char} {s signed rest : List Char} (hmark : mark = 'e' ∨ mark = 'E')
    (hsign : signed = s ∨ signed = '+' :: s ∨ signed = '-' :: s) (h : Digits s rest) :
    Exponent (mark :: signed) rest

/-- A number without its sign. -/
def Unsigned (s rest : List Char) : Prop :=
  ∃ t u, Whole s t ∧ Fraction t u ∧ Exponent u rest

/-- A value that has no parts. -/
inductive Leaf : List Char → List Char → Prop
  /-- A string. -/
  | string {s rest : List Char} (h : Chars s rest) : Leaf ('"' :: s) rest
  /-- A number without sign. -/
  | positive {s rest : List Char} (h : Unsigned s rest) : Leaf s rest
  /-- A number with a sign. -/
  | negative {s rest : List Char} (h : Unsigned s rest) : Leaf ('-' :: s) rest
  /-- A constant. -/
  | word {w : String} (hw : w ∈ ["true", "false", "null"]) (rest : List Char) :
    Leaf (w.toList ++ rest) rest

/-- What stands behind an item: the end, or a comma and more items. -/
inductive More (Item : List Char → List Char → Prop) (close : Char) :
    List Char → List Char → Prop
  /-- The end. -/
  | close {s rest : List Char} (hs : skipBlank s = close :: rest) : More Item close s rest
  /-- Another item. -/
  | item {s t u v rest : List Char} {c : Char} (hs : skipBlank s = ',' :: t)
    (ht : skipBlank t = c :: u) (hc : c ≠ close) (hitem : Item (c :: u) v)
    (h : More Item close v rest) : More Item close s rest

/-- Items with commas between them, up to the end. -/
inductive Members (Item : List Char → List Char → Prop) (close : Char) :
    List Char → List Char → Prop
  /-- No items. -/
  | empty {s rest : List Char} (hs : skipBlank s = close :: rest) : Members Item close s rest
  /-- An item, and what stands behind it. -/
  | items {s u v rest : List Char} {c : Char} (hs : skipBlank s = c :: u) (hc : c ≠ close)
    (hitem : Item (c :: u) v) (h : More Item close v rest) : Members Item close s rest

/-- A key, a colon and a value. -/
inductive Entry (Item : List Char → List Char → Prop) : List Char → List Char → Prop
  /-- The key, the colon and the value. -/
  | mk {s t u rest : List Char} (hkey : Chars s t) (hcolon : skipBlank t = ':' :: u)
    (hvalue : Item u rest) : Entry Item ('"' :: s) rest

/-- A value whose arrays and objects nest at most so deep, perhaps behind blanks. -/
def Value : Nat → List Char → List Char → Prop
  | 0, s, rest => Leaf (skipBlank s) rest
  | depth + 1, s, rest =>
    Leaf (skipBlank s) rest ∨
      (∃ t, skipBlank s = '[' :: t ∧ Members (Value depth) ']' t rest) ∨
      ∃ t, skipBlank s = '{' :: t ∧ Members (Entry (Value depth)) '}' t rest

/-- A value without parts nests in any depth. -/
theorem Value.leaf {depth : ℕ} {s rest : List Char} (h : Leaf (skipBlank s) rest) :
    Value depth s rest := by
  cases depth with
  | zero => exact h
  | succ depth => exact .inl h

/-! ## The reader of documents -/

section

open Json Json.Read

theorem isHexDigit_of_hexValue? {c : Char} {n : ℕ} (h : Json.Read.hexValue? c = some n) :
    isHexDigit c = true := by
  rw [Json.Read.hexValue?] at h
  rw [isHexDigit, Char.isDigit]
  simp only [Bool.or_eq_true, Bool.and_eq_true, decide_eq_true_eq]
  split at h
  · next hc => exact .inl (.inl hc)
  · split at h
    · next hc => exact .inl (.inr hc)
    · split at h
      · next hc => exact .inr hc
      · cases h

/-- What is read as four hexadecimal digits are four of them, whatever number they spell. -/
theorem hexFour_eq_ok {s rest : List Char} {n : ℕ} (h : hexFour s = .ok (n, rest)) :
    ∃ a b c d, s = a :: b :: c :: d :: rest ∧ [a, b, c, d].all isHexDigit = true := by
  unfold hexFour at h
  split at h
  · cases h
  · split at h
    · split at h
      · next ha hb hc hd =>
        cases h
        refine ⟨_, _, _, _, rfl, ?_⟩
        simp [isHexDigit_of_hexValue? ha, isHexDigit_of_hexValue? hb, isHexDigit_of_hexValue? hc,
          isHexDigit_of_hexValue? hd]
      · cases h
    · cases h

/-- The mark of a second escape is read just if it is there. -/
theorem pairMark_eq_ok {mark : Char} {s rest : List Char} (h : pairMark mark s = .ok rest) :
    s = mark :: rest := by
  cases s with
  | nil => cases h
  | cons c s =>
    rw [pairMark] at h
    split at h
    · next hc =>
      cases h
      rw [hc]
    · cases h

/-- An escape, or a pair of them for one character, may stand before the rest of a string. -/
theorem chars_of_escaped {s t rest : List Char} {d : Char} (h : escaped s = .ok (d, t))
    (hrest : Chars t rest) : Chars ('\\' :: s) rest := by
  cases s with
  | nil => cases h
  | cons c s =>
    rw [escaped] at h
    split at h
    · next hc =>
      subst hc
      rw [hexEscape] at h
      obtain ⟨⟨high, s'⟩, hhigh, hpair⟩ := bind_eq_ok.1 h
      obtain ⟨a, b, c, d, hs, hdigits⟩ := hexFour_eq_ok hhigh
      rw [hs]
      refine .unicode hdigits ?_
      simp only at hpair
      split at hpair
      · cases hpair
      · split at hpair
        · -- the second half of a pair is an escape of its own
          obtain ⟨s₁, h₁, hpair⟩ := bind_eq_ok.1 hpair
          obtain ⟨s₂, h₂, hpair⟩ := bind_eq_ok.1 hpair
          obtain ⟨⟨low, s₃⟩, hlow, hpair⟩ := bind_eq_ok.1 hpair
          obtain ⟨a, b, c, d, hs₂, hdigits⟩ := hexFour_eq_ok hlow
          rw [pairMark_eq_ok h₁, pairMark_eq_ok h₂, hs₂]
          simp only at hpair
          split at hpair
          · obtain ⟨-, rfl⟩ := Prod.mk.inj (Except.ok.inj hpair)
            exact .unicode hdigits hrest
          · cases hpair
        · obtain ⟨-, rfl⟩ := Prod.mk.inj (Except.ok.inj hpair)
          exact hrest
    · split at h
      · next d' hd =>
        cases h
        refine .letter ?_ hrest
        by_contra hc
        simp only [List.mem_cons, List.not_mem_nil, or_false, not_or] at hc
        simp [Json.Read.simpleEscape?, hc] at hd
      · cases h

/-- The characters that are read up to the closing quote are those of a string. A pair of escapes
that is read as one character is two escapes of the grammar. -/
theorem chars_of_stringChars {fuel : ℕ} {s cs rest : List Char}
    (h : stringChars fuel s = .ok (cs, rest)) : Chars s rest := by
  induction fuel generalizing s cs with
  | zero => cases s <;> cases h
  | succ fuel ih =>
    cases s with
    | nil => cases h
    | cons c s =>
      rw [stringChars] at h
      split at h
      · next hc =>
        cases h
        rw [hc]
        exact .close rest
      · next hquote =>
        split at h
        · next hc =>
          obtain ⟨⟨d, t⟩, hd, h⟩ := bind_eq_ok.1 h
          obtain ⟨⟨ds, u⟩, hds, h⟩ := bind_eq_ok.1 h
          cases h
          rw [hc]
          exact chars_of_escaped hd (ih hds)
        · next hescape =>
          split at h
          · cases h
          · next hc =>
            obtain ⟨⟨ds, u⟩, hds, h⟩ := bind_eq_ok.1 h
            cases h
            exact .char hquote hescape hc (ih hds)

theorem chars_of_string {s rest : List Char} {x : String} (h : string s = .ok (x, rest)) :
    Chars s rest := by
  obtain ⟨⟨cs, t⟩, hcs, h⟩ := bind_eq_ok.1 h
  cases h
  exact chars_of_stringChars hcs

/-- Rounding a number takes no characters. -/
theorem floatNumber_eq_ok {negative : Bool} {d : Json.Read.Digits} {e : Int} {s rest : List Char}
    {n : Number} (h : floatNumber negative d e s = .ok (n, rest)) : rest = s := by
  rw [floatNumber] at h
  split at h
  · cases h
    rfl
  · cases h

/-- Neither does taking an integer, or a binary number for one that is too large. -/
theorem integerNumber_eq_ok {negative : Bool} {d : Json.Read.Digits} {s rest : List Char}
    {n : Number} (h : integerNumber negative d s = .ok (n, rest)) : rest = s := by
  rw [integerNumber] at h
  split at h
  · exact floatNumber_eq_ok h
  · split at h
    · split at h
      · cases h
        rfl
      · split at h
        · cases h
          rfl
        · exact floatNumber_eq_ok h
    · split at h
      · cases h
        rfl
      · exact floatNumber_eq_ok h

/-- The digits of an exponent are taken to their end, or what is left of them is passed over. -/
theorem exponentDigits_eq {n : ℕ} {s rest : List Char} {o : Option ℕ}
    (h : exponentDigits n s = (o, rest)) :
    rest.dropWhile Char.isDigit = s.dropWhile Char.isDigit ∧
      (o ≠ none → rest = s.dropWhile Char.isDigit) := by
  induction s generalizing n with
  | nil =>
    cases h
    exact ⟨rfl, fun _ => rfl⟩
  | cons c s ih =>
    rw [exponentDigits] at h
    split at h
    · next hc =>
      rw [List.dropWhile_cons_of_pos hc]
      split at h
      · cases h
        exact ⟨rfl, fun hnone => absurd rfl hnone⟩
      · exact ih h
    · next hc =>
      cases h
      rw [List.dropWhile_cons_of_neg hc]
      exact ⟨rfl, fun _ => rfl⟩

/-- A digit and those behind it are a run of digits. -/
theorem digits_cons {c : Char} {s : List Char} (hc : c.isDigit = true) :
    Digits (c :: s) (s.dropWhile Char.isDigit) where
  nonempty := by rw [List.takeWhile_cons_of_pos hc]; rfl
  rest_eq := by rw [List.dropWhile_cons_of_pos hc]

/-- What is read behind the letter of an exponent are its sign and its digits. -/
theorem exponent_of_exponentPart {negative : Bool} {d : Json.Read.Digits} {mark : Char}
    (hmark : mark = 'e' ∨ mark = 'E') {s rest : List Char} {n : Number}
    (h : exponentPart negative d s = .ok (n, rest)) : Exponent (mark :: s) rest := by
  unfold exponentPart at h
  split at h
  next down t ht =>
  have hsign : s = t ∨ s = '+' :: t ∨ s = '-' :: t := by
    split at ht <;> cases ht <;> simp
  refine .some hmark hsign ?_
  split at h
  · cases h
  · next c u =>
    split at h
    · next hc =>
      have hends {o : Option ℕ} {v : List Char} (hv : exponentDigits 0 (c :: u) = (o, v)) :=
        exponentDigits_eq hv
      simp only [List.dropWhile_cons_of_pos hc] at hends
      split at h
      · next m v hv =>
        rw [floatNumber_eq_ok h, (hends hv).2 (Option.some_ne_none m)]
        exact digits_cons hc
      · next v hv =>
        split at h
        · cases h
        · cases h
          rw [(hends hv).1]
          exact digits_cons hc
    · cases h

/-- Behind a fraction an exponent is read, or nothing. -/
theorem exponent_of_afterFraction {negative : Bool} {d : Json.Read.Digits} {s rest : List Char}
    {n : Number} (h : afterFraction negative d s = .ok (n, rest)) : Exponent s rest := by
  cases s with
  | nil =>
    rw [floatNumber_eq_ok h]
    exact .none []
  | cons c s =>
    rw [afterFraction] at h
    split at h
    · next hc => exact exponent_of_exponentPart hc h
    · rw [floatNumber_eq_ok h]
      exact .none _

/-- What is read behind the point are digits and perhaps an exponent; digits that are too many for a
significand are still passed over. -/
theorem digits_of_fractionPart {negative : Bool} {d : Json.Read.Digits} {s rest : List Char}
    {n : Number} (h : fractionPart negative d s = .ok (n, rest)) :
    ∃ t, Digits s t ∧ Exponent t rest := by
  rw [fractionPart] at h
  split at h
  · split at h <;> cases h
  · next hne => exact ⟨_, ⟨eq_false_of_ne_true hne, rfl⟩, exponent_of_afterFraction h⟩

/-- Behind the digits before the point a fraction and an exponent are read, or one of them, or
nothing. -/
theorem fraction_of_afterInteger {negative : Bool} {d : Json.Read.Digits} {s rest : List Char}
    {n : Number} (h : afterInteger negative d s = .ok (n, rest)) :
    ∃ t, Fraction s t ∧ Exponent t rest := by
  cases s with
  | nil =>
    rw [integerNumber_eq_ok h]
    exact ⟨[], .none _, .none _⟩
  | cons c s =>
    rw [afterInteger] at h
    split at h
    · next hc =>
      obtain ⟨t, ht, hrest⟩ := digits_of_fractionPart h
      rw [hc]
      exact ⟨t, .some ht, hrest⟩
    · split at h
      · next hc => exact ⟨_, .none _, exponent_of_exponentPart hc h⟩
      · rw [integerNumber_eq_ok h]
        exact ⟨_, .none _, .none _⟩

/-- A number that is read behind its sign is one of the grammar; a zero is followed by no digit. -/
theorem unsigned_of_unsignedNumber {negative : Bool} {s rest : List Char} {n : Number}
    (h : unsignedNumber negative s = .ok (n, rest)) : Unsigned s rest := by
  have hzero {t : List Char} (ht : ∀ c ∈ t.head?, c.isDigit = false) : Whole ('0' :: t) t := by
    have hnone : t.takeWhile Char.isDigit = [] ∧ t.dropWhile Char.isDigit = t := by
      cases t with
      | nil => exact ⟨rfl, rfl⟩
      | cons c t =>
        have hc : ¬ c.isDigit = true := by simpa using ht c rfl
        exact ⟨List.takeWhile_cons_of_neg hc, List.dropWhile_cons_of_neg hc⟩
    have hdigit : ('0' : Char).isDigit = true := by decide
    refine ⟨⟨?_, ?_⟩, ?_⟩
    · rw [List.takeWhile_cons_of_pos hdigit]
      rfl
    · rw [List.dropWhile_cons_of_pos hdigit, hnone.2]
    · rw [List.takeWhile_cons_of_pos hdigit, hnone.1]
      simp
  unfold unsignedNumber at h
  split at h
  · cases h
  · next c t =>
    split at h
    · next hc =>
      subst hc
      split at h
      · next d u =>
        split at h
        · cases h
        · next hd =>
          obtain ⟨v, hv, hrest⟩ := fraction_of_afterInteger h
          exact ⟨_, v, hzero (by simpa using hd), hv, hrest⟩
      · obtain ⟨v, hv, hrest⟩ := fraction_of_afterInteger h
        exact ⟨_, v, hzero (by simp), hv, hrest⟩
    · next hnonzero =>
      split at h
      · next hc =>
        obtain ⟨v, hv, hrest⟩ := fraction_of_afterInteger h
        refine ⟨_, v, ⟨digits_cons hc, ?_⟩, hv, hrest⟩
        rw [List.takeWhile_cons_of_pos hc]
        rintro ⟨-, hhead⟩
        exact hnonzero (Option.some.inj hhead)
      · cases h

/-- So is a number with its sign. -/
theorem leaf_of_number {s rest : List Char} {n : Number}
    (h : Json.Read.number s = .ok (n, rest)) : Leaf s rest := by
  unfold Json.Read.number at h
  split at h
  · exact .negative (unsigned_of_unsignedNumber h)
  · exact .positive (unsigned_of_unsignedNumber h)

theorem word_eq_ok {w s rest : List Char} (h : Json.Read.word w s = .ok rest) : s = w ++ rest := by
  induction w generalizing s with
  | nil =>
    cases h
    rfl
  | cons a w ih =>
    cases s with
    | nil => cases h
    | cons c s =>
      rw [Json.Read.word] at h
      split at h
      · next hc => rw [hc, ih h, List.cons_append]
      · cases h

section

variable {α : Type} {item : List Char → Except Failure (α × List Char)}
  {Item : List Char → List Char → Prop}
  (hitem : ∀ {s x rest}, item s = .ok (x, rest) → Item s rest)
include hitem

/-- Items that are read behind others are items of the grammar, if each of them is. -/
theorem more_of_moreItems {fuel : ℕ} {s rest : List Char} {xs : List α}
    (h : moreItems item fuel s = .ok (xs, rest)) : More Item ']' s rest := by
  induction fuel generalizing s xs with
  | zero => cases h
  | succ fuel ih =>
    rw [moreItems] at h
    split at h
    · cases h
    · next c t hs =>
      split at h
      · next hc =>
        cases h
        rw [hc] at hs
        exact .close hs
      · split at h
        · next hc =>
          rw [hc] at hs
          split at h
          · cases h
          · next d u ht =>
            split at h
            · cases h
            · next hd =>
              obtain ⟨⟨x, v⟩, hx, h⟩ := bind_eq_ok.1 h
              obtain ⟨⟨ys, w⟩, hys, h⟩ := bind_eq_ok.1 h
              cases h
              exact .item hs ht hd (hitem hx) (ih hys)
        · cases h

/-- So are the items of an array from the bracket on. -/
theorem members_of_items {s rest : List Char} {xs : List α}
    (h : items item s = .ok (xs, rest)) : Members Item ']' s rest := by
  unfold items at h
  split at h
  · cases h
  · next c t hs =>
    split at h
    · next hc =>
      cases h
      rw [hc] at hs
      exact .empty hs
    · next hc =>
      obtain ⟨⟨x, v⟩, hx, h⟩ := bind_eq_ok.1 h
      obtain ⟨⟨ys, w⟩, hys, h⟩ := bind_eq_ok.1 h
      cases h
      exact .items hs hc (hitem hx) (more_of_moreItems hitem hys)

/-- A key that is read, and an item behind it, make an entry. -/
theorem entry_of_key {s t rest : List Char} {k : String} {x : α} (hkey : key s = .ok (k, t))
    (hx : item t = .ok (x, rest)) : Entry Item s rest := by
  unfold key at hkey
  split at hkey
  · obtain ⟨⟨k', u⟩, hk, hcolon⟩ := bind_eq_ok.1 hkey
    obtain ⟨v, hv, hcolon⟩ := bind_eq_ok.1 hcolon
    cases hcolon
    unfold colon at hv
    split at hv
    · cases hv
    · next c w hw =>
      split at hv
      · next hc =>
        cases hv
        rw [hc] at hw
        exact .mk (chars_of_string hk) hw (hitem hx)
      · cases hv
  · cases hkey

/-- Entries that are read behind others are entries of the grammar, if each value is an item. -/
theorem more_of_moreEntries {fuel : ℕ} {s rest : List Char} {xs : List (String × α)}
    (h : moreEntries item fuel s = .ok (xs, rest)) : More (Entry Item) '}' s rest := by
  induction fuel generalizing s xs with
  | zero => cases h
  | succ fuel ih =>
    rw [moreEntries] at h
    split at h
    · cases h
    · next c t hs =>
      split at h
      · next hc =>
        cases h
        rw [hc] at hs
        exact .close hs
      · split at h
        · next hc =>
          rw [hc] at hs
          split at h
          · cases h
          · next d u ht =>
            split at h
            · cases h
            · next hd =>
              obtain ⟨⟨k, v⟩, hk, h⟩ := bind_eq_ok.1 h
              obtain ⟨⟨x, w⟩, hx, h⟩ := bind_eq_ok.1 h
              obtain ⟨⟨ys, z⟩, hys, h⟩ := bind_eq_ok.1 h
              cases h
              exact .item hs ht hd (entry_of_key hitem hk hx) (ih hys)
        · cases h

/-- So are the entries of an object from the brace on. -/
theorem members_of_entries {s rest : List Char} {xs : List (String × α)}
    (h : entries item s = .ok (xs, rest)) : Members (Entry Item) '}' s rest := by
  unfold entries at h
  split at h
  · cases h
  · next c t hs =>
    split at h
    · next hc =>
      cases h
      rw [hc] at hs
      exact .empty hs
    · next hc =>
      obtain ⟨⟨k, v⟩, hk, h⟩ := bind_eq_ok.1 h
      obtain ⟨⟨x, w⟩, hx, h⟩ := bind_eq_ok.1 h
      obtain ⟨⟨ys, z⟩, hys, h⟩ := bind_eq_ok.1 h
      cases h
      exact .items hs hc (entry_of_key hitem hk hx) (more_of_moreEntries hitem hys)

end

/-- **What the reader of documents takes is a value of the grammar.** -/
theorem value_of_read {depth : ℕ} {s rest : List Char} {d : Json}
    (h : value depth s = .ok (d, rest)) : Value depth s rest := by
  induction depth using Nat.strongRecOn generalizing s rest d with
  | ind depth ih =>
    have hword {w : String} (hw : w ∈ ["true", "false", "null"]) {c : Char} {cs t u : List Char}
        (hs : skipBlank s = c :: t) (hc : w.toList = c :: cs) (hu : Json.Read.word cs t = .ok u) :
        Value depth s u := by
      refine .leaf ?_
      rw [hs, word_eq_ok hu, ← List.cons_append, ← hc]
      exact .word hw u
    rw [value.eq_def] at h
    split at h
    · cases h
    next c t hs =>
    split at h
    · next hc =>
      obtain ⟨⟨x, u⟩, hx, h⟩ := bind_eq_ok.1 h
      cases h
      refine .leaf ?_
      rw [hs, hc]
      exact .string (chars_of_string hx)
    split at h
    · next hc =>
      split at h
      · cases h
      · next depth =>
        obtain ⟨⟨xs, u⟩, hxs, h⟩ := bind_eq_ok.1 h
        cases h
        rw [hc] at hs
        exact .inr (.inl ⟨t, hs, members_of_items (ih depth (by omega)) hxs⟩)
    split at h
    · next hc =>
      split at h
      · cases h
      · next depth =>
        obtain ⟨⟨xs, u⟩, hxs, h⟩ := bind_eq_ok.1 h
        cases h
        rw [hc] at hs
        exact .inr (.inr ⟨t, hs, members_of_entries (ih depth (by omega)) hxs⟩)
    split at h
    · next hc =>
      obtain ⟨u, hu, h⟩ := bind_eq_ok.1 h
      cases h
      exact hword (w := "null") (by decide) hs (by rw [hc]; rfl) hu
    split at h
    · next hc =>
      obtain ⟨u, hu, h⟩ := bind_eq_ok.1 h
      cases h
      exact hword (w := "true") (by decide) hs (by rw [hc]; rfl) hu
    split at h
    · next hc =>
      obtain ⟨u, hu, h⟩ := bind_eq_ok.1 h
      cases h
      exact hword (w := "false") (by decide) hs (by rw [hc]; rfl) hu
    split at h
    · obtain ⟨⟨n, u⟩, hn, h⟩ := bind_eq_ok.1 h
      cases h
      refine .leaf ?_
      rw [hs]
      exact leaf_of_number hn
    · cases h

end

/-! ## What a value takes of a text -/

/-- The second text is left of the first, and there was no zero character in front of it. -/
def Takes (s rest : List Char) : Prop := ∃ part, s = part ++ rest ∧ '\x00' ∉ part

theorem Takes.refl (s : List Char) : Takes s s := ⟨[], rfl, List.not_mem_nil⟩

/-- What takes no zero character step by step takes none in all. -/
theorem Takes.trans {s t u : List Char} (h : Takes s t) (h' : Takes t u) : Takes s u := by
  obtain ⟨p, rfl, hp⟩ := h
  obtain ⟨q, rfl, hq⟩ := h'
  exact ⟨p ++ q, (List.append_assoc p q u).symm, by simp [hp, hq]⟩

theorem Takes.cons {c : Char} {s rest : List Char} (hc : c ≠ '\x00') (h : Takes s rest) :
    Takes (c :: s) rest := by
  obtain ⟨p, rfl, hp⟩ := h
  exact ⟨c :: p, rfl, by simp [hp, hc.symm]⟩

/-- What is left is no longer than the text. -/
theorem Takes.length_le {s rest : List Char} (h : Takes s rest) : rest.length ≤ s.length := by
  obtain ⟨p, rfl, -⟩ := h
  simp

/-- Passing over characters of a class takes no zero character if the class has none. -/
theorem takes_dropWhile {p : Char → Bool} (hp : p '\x00' = false) (s : List Char) :
    Takes s (s.dropWhile p) := by
  refine ⟨s.takeWhile p, List.takeWhile_append_dropWhile.symm, fun hmem => ?_⟩
  have hzero := List.mem_takeWhile_imp hmem
  rw [hp] at hzero
  cases hzero

theorem takes_skipBlank {s t : List Char} (h : skipBlank s = t) : Takes s t := by
  rw [← h]
  exact takes_dropWhile (by decide) s

/-- A blank and then a character. -/
theorem takes_behind {s t : List Char} {c : Char} (h : skipBlank s = c :: t) (hc : c ≠ '\x00') :
    Takes s t :=
  (takes_skipBlank h).trans (.cons hc (.refl t))

theorem Digits.takes {s rest : List Char} (h : Digits s rest) : Takes s rest := by
  rw [h.rest_eq]
  exact takes_dropWhile (by decide) s

/-- A string has no zero character in it: one that stands for itself is too small. -/
theorem Chars.takes {s rest : List Char} (h : Chars s rest) : Takes s rest := by
  induction h with
  | close rest => exact .cons (by decide) (.refl rest)
  | char hquote hescape hc _ ih =>
    refine .cons ?_ ih
    rintro rfl
    exact hc (by decide)
  | letter hc _ ih =>
    refine .cons (by decide) (.cons ?_ ih)
    rintro rfl
    exact absurd hc (by decide)
  | @unicode a b c d s rest hdigits _ ih =>
    have hzero {x : Char} (hx : x ∈ [a, b, c, d]) : x ≠ '\x00' := by
      rintro rfl
      exact absurd (List.all_eq_true.1 hdigits _ hx) (by decide)
    refine .cons (by decide) (.cons (by decide) ?_)
    exact .cons (hzero (by simp)) (.cons (hzero (by simp)) (.cons (hzero (by simp))
      (.cons (hzero (by simp)) ih)))

theorem Fraction.takes {s rest : List Char} (h : Fraction s rest) : Takes s rest := by
  cases h with
  | none => exact .refl s
  | some h => exact .cons (by decide) h.takes

theorem Exponent.takes {s rest : List Char} (h : Exponent s rest) : Takes s rest := by
  cases h with
  | none => exact .refl s
  | some hmark hsign h =>
    refine .cons ?_ ?_
    · rcases hmark with rfl | rfl <;> decide
    · rcases hsign with rfl | rfl | rfl
      · exact h.takes
      · exact .cons (by decide) h.takes
      · exact .cons (by decide) h.takes

/-- A number has none, part by part. -/
theorem Unsigned.takes {s rest : List Char} (h : Unsigned s rest) : Takes s rest := by
  obtain ⟨t, u, hwhole, hfraction, hexponent⟩ := h
  exact hwhole.toDigits.takes.trans (hfraction.takes.trans hexponent.takes)

theorem Leaf.takes {s rest : List Char} (h : Leaf s rest) : Takes s rest := by
  cases h with
  | string h => exact .cons (by decide) h.takes
  | positive h => exact h.takes
  | negative h => exact .cons (by decide) h.takes
  | word hw rest =>
    refine ⟨_, rfl, fun hzero => ?_⟩
    simp only [List.mem_cons, List.not_mem_nil, or_false] at hw
    rcases hw with rfl | rfl | rfl <;> exact absurd hzero (by decide)

section

variable {Item : List Char → List Char → Prop} {close : Char}

/-- Items and their commas have none, if no item has. -/
theorem More.takes (hItem : ∀ {s rest}, Item s rest → Takes s rest) (hclose : close ≠ '\x00')
    {s rest : List Char} (h : More Item close s rest) : Takes s rest := by
  induction h with
  | close hs => exact takes_behind hs hclose
  | item hs ht _ hitem _ ih =>
    exact (takes_behind hs (by decide)).trans ((takes_skipBlank ht).trans ((hItem hitem).trans ih))

theorem Members.takes (hItem : ∀ {s rest}, Item s rest → Takes s rest) (hclose : close ≠ '\x00')
    {s rest : List Char} (h : Members Item close s rest) : Takes s rest := by
  cases h with
  | empty hs => exact takes_behind hs hclose
  | items hs _ hitem h =>
    exact (takes_skipBlank hs).trans ((hItem hitem).trans (h.takes hItem hclose))

/-- An entry has none, if no item has. -/
theorem Entry.takes (hItem : ∀ {s rest}, Item s rest → Takes s rest) {s rest : List Char}
    (h : Entry Item s rest) : Takes s rest := by
  cases h with
  | mk hkey hcolon hvalue =>
    exact .cons (by decide)
      (hkey.takes.trans ((takes_behind hcolon (by decide)).trans (hItem hvalue)))

end

theorem Value.takes {depth : ℕ} {s rest : List Char} (h : Value depth s rest) : Takes s rest := by
  induction depth generalizing s rest with
  | zero => exact (takes_skipBlank rfl).trans (Leaf.takes h)
  | succ depth ih =>
    rcases h with h | ⟨t, hs, h⟩ | ⟨t, hs, h⟩
    · exact (takes_skipBlank rfl).trans h.takes
    · exact (takes_behind hs (by decide)).trans (h.takes ih (by decide))
    · exact (takes_behind hs (by decide)).trans (h.takes (Entry.takes ih) (by decide))

end JsonText

end DocSelect
