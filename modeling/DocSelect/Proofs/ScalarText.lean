import DocSelect.Json.Printer
import DocSelect.Json.Reader
import DocSelect.Proofs.FloatText
/-!
# Reading back strings and numbers

What the printer writes for a string or a number, in front of the rest of a document.

* `Json.Read.string_quote` : **a string is read back**, whatever characters it has;
* `Json.Read.number_intText` : **an integer is read back**;
* `Json.Read.FloatSpelling`, `Json.Read.exists_floatSpelling` : the text of a binary number is read
  up to its end; it stands for the shortest decimal of the number, which is then scaled with a
  rounding at each step;
* `Json.Read.number_text` : so what a number is read back as does not depend on what follows it.
-/

namespace DocSelect

/-- The digits of a number other than zero do not start with a zero. -/
theorem head?_natDigits_ne_zero {n : ℕ} (hn : n ≠ 0) : (natDigits n).head? ≠ some '0' := by
  induction n using Nat.strongRecOn with
  | ind n ih =>
    rw [natDigits, Nat.toDigits_eq_if (by decide)]
    split
    · simpa using hn
    · next hlt =>
      -- the first digit is that of the number without its last one
      have hfirst := ih (n / 10) (by omega) (by omega)
      show (natDigits (n / 10) ++ [(n % 10).digitChar]).head? ≠ some '0'
      rwa [List.head?_append_of_ne_nil _ (natDigits_ne_nil (n / 10))]

/-- The decimal that the text of a binary number spells: its digits without the point, and the power
of ten of the last one. A whole number has a zero behind the point. -/
def Binary64.textDecimal (x : Binary64) : Decimal :=
  if x.isZero = true then ⟨0, -1⟩
  else if 0 ≤ (Decimal.shortest .toEven x).scale ∧ (Decimal.shortest .toEven x).lead ≤ 15 then
    ⟨(Decimal.shortest .toEven x).coefficient *
      10 ^ ((Decimal.shortest .toEven x).scale.toNat + 1), -1⟩
  else Decimal.shortest .toEven x

namespace Json.Read

/-! ## Strings -/

/-- A digit and its value. -/
theorem hexValue?_hexDigit (n : ℕ) : hexValue? (hexDigit n) = some (n % 16) := by
  have hdigit : ∀ m < 16, hexValue? (Nat.digitChar m) = some m := by decide
  exact hdigit (n % 16) (Nat.mod_lt n (by decide))

theorem utf8Size_hexDigit (n : ℕ) : (hexDigit n).utf8Size = 1 := by
  have hdigit : ∀ m < 16, (Nat.digitChar m).utf8Size = 1 := by decide
  exact hdigit (n % 16) (Nat.mod_lt n (by decide))

/-- The four digits of a control character stand for it. -/
theorem hexEscape_control {c : Char} (hc : c.toNat < 0x20) (rest : List Char) :
    hexEscape ('0' :: '0' :: hexDigit (c.toNat / 16) :: hexDigit c.toNat :: rest) =
      .ok (c, rest) := by
  have hfour : hexFour ('0' :: '0' :: hexDigit (c.toNat / 16) :: hexDigit c.toNat :: rest) =
      .ok (c.toNat, rest) := by
    have hsize : ('0' : Char).utf8Size = 1 := by decide
    have hzero : hexValue? '0' = some 0 := by decide
    have hvalue : ((0 * 16 + 0) * 16 + c.toNat / 16 % 16) * 16 + c.toNat % 16 = c.toNat := by
      omega
    simp only [hexFour, List.take_succ_cons, List.take_zero, utf8Length_cons, utf8Length_nil,
      hsize, utf8Size_hexDigit, hzero, hexValue?_hexDigit, hvalue]
    rw [if_neg (by decide)]
  rw [hexEscape, hfour]
  simp only [bind, Except.bind]
  rw [if_neg (by omega), if_neg (by omega), Char.ofNat_toNat]

/-- A character is read from what stands for it inside a string. -/
theorem stringChars_escape {c : Char} {s rest ds : List Char} {fuel : ℕ}
    (h : stringChars fuel s = .ok (ds, rest)) :
    stringChars (fuel + 1) (escape c ++ s) = .ok (c :: ds, rest) := by
  -- the letter behind a backslash
  have hescaped {e d : Char} (he : e ≠ 'u') (hd : simpleEscape? e = some d) :
      stringChars (fuel + 1) ('\\' :: e :: s) = .ok (d :: ds, rest) := by
    rw [stringChars, if_neg (by decide), if_pos rfl, escaped, if_neg he, hd]
    simp only [bind, Except.bind, h]
  unfold escape
  split_ifs with hquote hslash hback hform hline hreturn htab hcontrol
  · rw [hquote]
    exact hescaped (by decide) rfl
  · rw [hslash]
    exact hescaped (by decide) rfl
  · rw [hback]
    exact hescaped (by decide) rfl
  · rw [hform]
    exact hescaped (by decide) rfl
  · rw [hline]
    exact hescaped (by decide) rfl
  · rw [hreturn]
    exact hescaped (by decide) rfl
  · rw [htab]
    exact hescaped (by decide) rfl
  · show stringChars (fuel + 1)
      ('\\' :: 'u' :: '0' :: '0' :: hexDigit (c.toNat / 16) :: hexDigit c.toNat :: s) = _
    rw [stringChars, if_neg (by decide), if_pos rfl, escaped, if_pos rfl]
    simp only [hexEscape_control hcontrol, bind, Except.bind, h]
  · show stringChars (fuel + 1) (c :: s) = _
    rw [stringChars, if_neg hquote, if_neg hslash, if_neg hcontrol]
    simp only [bind, Except.bind, h]

/-- The characters of a string are read back. -/
theorem stringChars_flatMap_escape (s rest : List Char) {fuel : ℕ} (hfuel : s.length < fuel) :
    stringChars fuel (s.flatMap escape ++ '"' :: rest) = .ok (s, rest) := by
  induction s generalizing fuel with
  | nil =>
    obtain ⟨fuel, rfl⟩ := Nat.exists_eq_add_of_lt hfuel
    rfl
  | cons c s ih =>
    obtain ⟨fuel, rfl⟩ : ∃ k, fuel = k + 1 := Nat.exists_eq_succ_of_ne_zero (by omega)
    rw [List.flatMap_cons, List.append_assoc]
    refine stringChars_escape (ih ?_)
    rw [List.length_cons] at hfuel
    omega

theorem length_le_length_flatMap_escape (s : List Char) : s.length ≤ (s.flatMap escape).length := by
  induction s with
  | nil => rfl
  | cons c s ih =>
    have hone : 1 ≤ (escape c).length := by
      unfold escape
      split_ifs <;> simp
    rw [List.flatMap_cons, List.length_append, List.length_cons]
    omega

/-- **A string is read back**, whatever characters are in it. -/
theorem string_quote (s : String) (rest : List Char) :
    string (s.toList.flatMap escape ++ '"' :: rest) = .ok (s, rest) := by
  have hlength := length_le_length_flatMap_escape s.toList
  rw [string, stringChars_flatMap_escape]
  · simp only [bind, Except.bind, String.ofList_toList]
  · rw [List.length_append, List.length_cons]
    omega

/-! ## Numbers -/

/-- What follows does not continue a number. -/
def EndsNumber (rest : List Char) : Prop :=
  ∀ c ∈ rest.head?, c.isDigit = false ∧ c ≠ '.' ∧ c ≠ 'e' ∧ c ≠ 'E'

theorem EndsNumber.not_isDigit {rest : List Char} (h : EndsNumber rest) :
    ∀ c ∈ rest.head?, c.isDigit = false := fun c hc => (h c hc).1

theorem EndsNumber.afterInteger {rest : List Char} (h : EndsNumber rest) (negative : Bool)
    (d : Digits) : afterInteger negative d rest = integerNumber negative d rest := by
  cases rest with
  | nil => rfl
  | cons c rest =>
    obtain ⟨-, hdot, he, hE⟩ := h c rfl
    rw [Read.afterInteger, if_neg hdot, if_neg (not_or.2 ⟨he, hE⟩)]

theorem EndsNumber.afterFraction {rest : List Char} (h : EndsNumber rest) (negative : Bool)
    (d : Digits) : afterFraction negative d rest = floatNumber negative d d.exponent rest := by
  cases rest with
  | nil => rfl
  | cons c rest =>
    obtain ⟨-, -, he, hE⟩ := h c rfl
    rw [Read.afterFraction, if_neg (not_or.2 ⟨he, hE⟩)]

theorem number_signed (negative : Bool) {c : Char} (hc : c.isDigit = true) (s : List Char) :
    number ((if negative then ['-'] else []) ++ c :: s) = unsignedNumber negative (c :: s) := by
  cases negative
  · have hne : c ≠ '-' := ne_of_class hc '-' (by decide)
    show number (c :: s) = _
    unfold number
    split
    · next heq => exact absurd (List.cons.inj heq).1 hne
    · rfl
  · rfl

/-- Digits before the point, or before the end. -/
theorem unsignedNumber_digits (negative : Bool) {ds rest : List Char}
    (hds : ds.all Char.isDigit = true) (hne : ds ≠ []) (hzero : ds.head? = some '0' → ds = ['0'])
    (hrest : ∀ c ∈ rest.head?, c.isDigit = false) :
    unsignedNumber negative (ds ++ rest) =
      afterInteger negative (ds.foldl Digits.push ⟨0, 0, false⟩) rest := by
  obtain ⟨c, ds, rfl⟩ := List.exists_cons_of_ne_nil hne
  obtain ⟨htake, hdrop⟩ := takeWhile_dropWhile_append hds hrest
  rw [List.all_cons, Bool.and_eq_true] at hds
  by_cases hc : c = '0'
  · -- a zero stands alone
    obtain rfl : ds = [] := (List.cons.inj (hzero (congrArg some hc))).2
    have hpush : ['0'].foldl Digits.push ⟨0, 0, false⟩ = ⟨0, 0, false⟩ := by
      simp [Digits.push, digitValue]
    rw [hc, hpush]
    cases rest with
    | nil => rfl
    | cons d rest =>
      have hd := hrest d rfl
      rw [List.cons_append, List.nil_append, unsignedNumber.eq_def]
      simp only [hd, if_true, Bool.false_eq_true, if_false]
  · rw [List.cons_append] at htake hdrop ⊢
    rw [List.dropWhile_cons_of_pos hds.1] at hdrop
    rw [unsignedNumber.eq_def]
    simp only [hc, hds.1, if_true, if_false, htake, hdrop]

theorem fractionPart_digits (negative : Bool) (d : Digits) {ds rest : List Char}
    (hds : ds.all Char.isDigit = true) (hne : ds ≠ [])
    (hrest : ∀ c ∈ rest.head?, c.isDigit = false) :
    fractionPart negative d (ds ++ rest) =
      afterFraction negative (ds.foldl Digits.pushFraction { d with full := false }) rest := by
  obtain ⟨htake, hdrop⟩ := takeWhile_dropWhile_append hds hrest
  unfold fractionPart
  simp only [htake, hdrop, List.isEmpty_iff, hne, if_false]

/-- Digits around a point. -/
theorem number_pointed (negative : Bool) {whole fraction rest : List Char}
    (h : Decimal.Pointed whole fraction) (hzero : whole.head? = some '0' → whole = ['0'])
    (hrest : ∀ c ∈ rest.head?, c.isDigit = false) :
    number ((if negative then ['-'] else []) ++ (whole ++ '.' :: (fraction ++ rest))) =
      afterFraction negative (fraction.foldl Digits.pushFraction
        { whole.foldl Digits.push ⟨0, 0, false⟩ with full := false }) rest := by
  have hdot : ∀ c ∈ ('.' :: (fraction ++ rest)).head?, c.isDigit = false := by simp
  have hunsigned := unsignedNumber_digits negative h.whole_all h.whole_ne_nil hzero hdot
  have hfraction := fractionPart_digits negative (whole.foldl Digits.push ⟨0, 0, false⟩)
    h.fraction_all h.fraction_ne_nil hrest
  obtain ⟨c, ds, rfl, hc, -⟩ := exists_eq_cons_of_all h.whole_ne_nil h.whole_all
  rw [List.cons_append] at hunsigned ⊢
  rw [number_signed negative hc, hunsigned, ← hfraction]
  rfl

/-! ## Exponents -/

/-- The first digit is taken up before the others. -/
theorem ofDigitChars_push (c : Char) (ds : List Char) (n : ℕ) :
    Nat.ofDigitChars 10 (c :: ds) n = Nat.ofDigitChars 10 ds (n * 10 + digitValue c) := by
  rw [Nat.ofDigitChars_cons, Nat.mul_comm]
  rfl

/-- More digits make a number no smaller. -/
theorem le_ofDigitChars (ds : List Char) (n : ℕ) : n ≤ Nat.ofDigitChars 10 ds n := by
  rw [Nat.ofDigitChars_eq_ofDigitChars_zero]
  have hpow := Nat.one_le_pow ds.length 10 (by decide)
  nlinarith

theorem exponentDigits_append {ds rest : List Char} {n : ℕ} (hds : ds.all Char.isDigit = true)
    (hmax : Nat.ofDigitChars 10 ds n ≤ maxExponent) (hrest : ∀ c ∈ rest.head?, c.isDigit = false) :
    exponentDigits n (ds ++ rest) = (some (Nat.ofDigitChars 10 ds n), rest) := by
  induction ds generalizing n with
  | nil =>
    cases rest with
    | nil => rfl
    | cons c rest =>
      have hc := hrest c rfl
      rw [List.nil_append, exponentDigits, if_neg (by simp [hc])]
      rfl
  | cons c ds ih =>
    rw [List.all_cons, Bool.and_eq_true] at hds
    rw [ofDigitChars_push] at hmax ⊢
    have hle := (le_ofDigitChars ds (n * 10 + digitValue c)).trans hmax
    rw [List.cons_append, exponentDigits, if_pos hds.1, if_neg (by omega), ih hds.2 hmax]

theorem exponentPart_natDigits (negative down : Bool) (d : Digits) {k : ℕ} {rest : List Char}
    (hk : k ≤ maxExponent) (hrest : ∀ c ∈ rest.head?, c.isDigit = false) :
    exponentPart negative d ((if down then '-' else '+') :: (natDigits k ++ rest)) =
      floatNumber negative d (if down then d.exponent - k else d.exponent + k) rest := by
  have hvalue : Nat.ofDigitChars 10 (natDigits k) 0 = k := by
    rw [← digitsValue_eq_ofDigitChars, digitsValue_natDigits]
  have hread := exponentDigits_append (n := 0) (all_isDigit_natDigits k) (by rw [hvalue]; exact hk)
    hrest
  rw [hvalue] at hread
  obtain ⟨c, ds, hds, hc, -⟩ := natDigits_eq_cons k
  rw [hds, List.cons_append] at hread
  rw [hds, List.cons_append]
  cases down
  · show (if c.isDigit = true then _ else _) = _
    rw [if_pos hc, hread]
    rfl
  · show (if c.isDigit = true then _ else _) = _
    rw [if_pos hc, hread]
    rfl

/-! ## Whole numbers -/

/-- Digits that fit are taken up exactly. -/
theorem foldl_push {ds : List Char} {n : ℕ} (hmax : Nat.ofDigitChars 10 ds n ≤ maxSignificand)
    (e : ℤ) : ds.foldl Digits.push ⟨n, e, false⟩ = ⟨Nat.ofDigitChars 10 ds n, e, false⟩ := by
  induction ds generalizing n with
  | nil => rfl
  | cons c ds ih =>
    rw [ofDigitChars_push] at hmax ⊢
    have hle := (le_ofDigitChars ds (n * 10 + digitValue c)).trans hmax
    rw [List.foldl_cons, Digits.push, if_neg (by simpa using hle), ih hmax]

theorem integerNumber_natAbs (w : Whole) (rest : List Char) :
    integerNumber (decide (w.val < 0)) ⟨w.val.natAbs, 0, false⟩ rest = .ok (.whole w, rest) := by
  unfold integerNumber
  by_cases h : w.val < 0
  · have hval : -(w.val.natAbs : ℤ) = w.val := by omega
    have hne : w.val.natAbs ≠ 0 := by omega
    simp only [h, decide_true, if_true, Bool.false_eq_true, if_false, hne, hval, Whole.ofInt?_val]
  · have hval : (w.val.natAbs : ℤ) = w.val := by omega
    simp only [h, decide_false, Bool.false_eq_true, if_false, hval, Whole.ofInt?_val]

/-- **An integer is read back.** -/
theorem number_intText (w : Whole) {rest : List Char} (hrest : EndsNumber rest) :
    number (intText w.val ++ rest) = .ok (.whole w, rest) := by
  have hvalue : Nat.ofDigitChars 10 (natDigits w.val.natAbs) 0 = w.val.natAbs := by
    rw [← digitsValue_eq_ofDigitChars, digitsValue_natDigits]
  have hmax : w.val.natAbs ≤ maxSignificand := by
    have hlower := w.lower
    have hupper := w.upper
    unfold maxSignificand
    omega
  have hzero : (natDigits w.val.natAbs).head? = some '0' → natDigits w.val.natAbs = ['0'] := by
    intro h
    by_cases hn : w.val.natAbs = 0
    · rw [hn]
      rfl
    · exact absurd h (head?_natDigits_ne_zero hn)
  have hunsigned := unsignedNumber_digits (decide (w.val < 0))
    (all_isDigit_natDigits w.val.natAbs) (natDigits_ne_nil _) hzero hrest.not_isDigit
  rw [foldl_push (by rw [hvalue]; exact hmax), hvalue, hrest.afterInteger,
    integerNumber_natAbs] at hunsigned
  rw [intText_eq, List.append_assoc]
  obtain ⟨c, ds, hds, hc, -⟩ := natDigits_eq_cons w.val.natAbs
  rw [hds, List.cons_append] at hunsigned ⊢
  rw [number_signed _ hc, hunsigned]

/-! ## Binary numbers -/

/-- The whole digits of a decimal other than zero do not start with a zero, unless that is all. -/
theorem head?_wholeDigits {d : Decimal} (hd : d.coefficient ≠ 0) :
    d.wholeDigits.head? = some '0' → d.wholeDigits = ['0'] := by
  have hfirst := head?_natDigits_ne_zero hd
  by_cases hs : 0 ≤ d.scale
  · rw [(Decimal.digits_of_whole hs).1, List.head?_append_of_ne_nil _ (natDigits_ne_nil _)]
    exact fun h => absurd h hfirst
  · by_cases hp : (-d.scale).toNat < (natDigits d.coefficient).length
    · rw [(Decimal.digits_of_inner (by omega) hp).1, List.head?_take, if_neg (by omega)]
      exact fun h => absurd h hfirst
    · rw [(Decimal.digits_of_small (by omega) (by omega)).1]
      exact fun _ => rfl

/-- The digits around a point as they are taken up. -/
def pointedDigits (whole fraction : List Char) : Digits :=
  fraction.foldl Digits.pushFraction { whole.foldl Digits.push ⟨0, 0, false⟩ with full := false }

theorem pointedDigits_single {c : Char} (hc : c.isDigit = true) :
    pointedDigits [c] [] = [c].foldl Digits.push ⟨0, 0, false⟩ := by
  have hle : ¬ maxSignificand < digitValue c := by
    have hc' := hc
    simp only [Char.isDigit, Bool.and_eq_true, decide_eq_true_eq] at hc'
    have hnine : c.toNat ≤ 57 := hc'.2
    unfold maxSignificand digitValue
    omega
  simp [pointedDigits, Digits.push, hle]

/-- A digit, others behind a point if there are any, and an exponent. -/
theorem number_scientific (negative down : Bool) {c : Char} {ds : List Char} {k : ℕ}
    (hc : c.isDigit = true) (hzero : c ≠ '0') (hds : ds.all Char.isDigit = true)
    (hk : k ≤ maxExponent) {rest : List Char} (hrest : ∀ c ∈ rest.head?, c.isDigit = false) :
    number ((if negative then ['-'] else []) ++ c :: ((if ds.isEmpty then [] else '.' :: ds) ++
        'e' :: (if down then '-' else '+') :: (natDigits k ++ rest))) =
      floatNumber negative (pointedDigits [c] ds)
        ((pointedDigits [c] ds).exponent + if down then -(k : ℤ) else k) rest := by
  have hexponent (d : Digits) := exponentPart_natDigits negative down d hk hrest
  have hshift (d : Digits) : (if down then d.exponent - (k : ℤ) else d.exponent + k) =
      d.exponent + if down then -(k : ℤ) else k := by
    cases down <;> rfl
  have hsingle : [c].all Char.isDigit = true := by simp [hc]
  have hone : [c].head? = some '0' → [c] = ['0'] := fun h => absurd (Option.some.inj h) hzero
  -- the letter of the exponent ends the digits before it
  have hletter : ∀ a ∈ ('e' :: (if down then '-' else '+') :: (natDigits k ++ rest)).head?,
      a.isDigit = false := by
    simp
  cases ds with
  | nil =>
    have hunsigned := unsignedNumber_digits negative hsingle (List.cons_ne_nil c []) hone hletter
    rw [← pointedDigits_single hc] at hunsigned
    show number (_ ++ c :: ('e' :: _)) = _
    rw [number_signed negative hc]
    refine hunsigned.trans ?_
    rw [afterInteger, if_neg (by decide), if_pos (.inl rfl), hexponent, hshift]
  | cons d ds =>
    have hpointed : Decimal.Pointed [c] (d :: ds) :=
      ⟨hsingle, hds, List.cons_ne_nil c [], List.cons_ne_nil d ds⟩
    have hnumber := number_pointed negative hpointed hone hletter
    refine Eq.trans ?_ (hnumber.trans ?_)
    · simp
    · rw [afterFraction, if_pos (.inl rfl), ← pointedDigits, hexponent, hshift]

/-- The text of a binary number is digits around a point and a power of ten: which decimal they are,
and how they are read in front of what does not continue the number. -/
structure FloatSpelling (x : Binary64) (whole fraction : List Char) (shift : ℤ) : Prop where
  /-- The digits are those of the shortest decimal of the number. -/
  decimal :
    Decimal.mk (digitsValue (whole ++ fraction)) (shift - fraction.length) = x.textDecimal
  /-- They are scaled by their power of ten. -/
  read : ∀ rest, EndsNumber rest → number (x.jsonText ++ rest) =
    floatNumber x.negative (pointedDigits whole fraction)
      ((pointedDigits whole fraction).exponent + shift) rest

/-- A text without an exponent. -/
theorem floatSpelling_pointed {x : Binary64} {whole fraction : List Char}
    (h : Decimal.Pointed whole fraction) (hzero : whole.head? = some '0' → whole = ['0'])
    (htext : x.jsonText = x.signText ++ (whole ++ '.' :: fraction))
    (hdecimal : Decimal.mk (digitsValue (whole ++ fraction)) (-fraction.length) = x.textDecimal) :
    FloatSpelling x whole fraction 0 where
  decimal := by rw [Int.zero_sub, hdecimal]
  read := by
    intro rest hrest
    rw [htext, List.append_assoc, List.append_assoc, List.cons_append, Int.add_zero]
    exact (number_pointed x.negative h hzero hrest.not_isDigit).trans
      (hrest.afterFraction x.negative _)

/-- A text with an exponent: the first digit stands before the point, the others behind it. -/
theorem exists_floatSpelling_scientific {x : Binary64} (hm : x.significand ≠ 0) {d : Decimal}
    (hd : Decimal.shortest .toEven x = d) (hlarge : ¬ (-5 ≤ d.lead ∧ d.lead ≤ 15)) :
    ∃ c ds, FloatSpelling x [c] ds d.lead := by
  have hz : ¬ x.isZero = true := by simpa [Binary64.isZero] using hm
  have hcovers := Decimal.covers_shortest .toEven hm
  rw [hd] at hcovers
  have hcoefficient := Decimal.coefficient_ne_zero_of_covers hm hcovers
  have hlead := Decimal.lead_bounds hm hcovers
  obtain ⟨c, ds, hds, hc, hall⟩ := natDigits_eq_cons d.coefficient
  have hcount : digitCount d.coefficient = ds.length + 1 := by
    rw [digitCount, hds, List.length_cons]
  refine ⟨c, ds, ?_, ?_⟩
  · have hscale : d.lead - ds.length = d.scale := by
      rw [Decimal.lead, hcount]
      push_cast
      ring
    -- such a whole number has a text without an exponent
    have hwhole : ¬ (0 ≤ d.scale ∧ d.lead ≤ 15) := by
      rintro ⟨hs, hle⟩
      refine hlarge ⟨?_, hle⟩
      omega
    rw [hscale, List.singleton_append, ← hds, digitsValue_natDigits, Binary64.textDecimal,
      if_neg hz, hd, if_neg hwhole]
  · intro rest hrest
    have hfirst : c ≠ '0' := by
      have h := head?_natDigits_ne_zero hcoefficient
      rw [hds] at h
      exact fun hzero => h (congrArg some hzero)
    have hk : d.lead.natAbs ≤ maxExponent := by
      unfold maxExponent
      omega
    have hnumber := number_scientific x.negative (decide (d.lead < 0)) hc hfirst hall hk
      hrest.not_isDigit
    have hshift : (if decide (d.lead < 0) then -(d.lead.natAbs : ℤ) else d.lead.natAbs) =
        d.lead := by
      by_cases h : d.lead < 0
      · simp only [h, decide_true, if_true]
        omega
      · simp only [h, decide_false, Bool.false_eq_true, if_false]
        omega
    rw [hshift] at hnumber
    refine Eq.trans ?_ hnumber
    have hmark : (if d.lead < 0 then '-' else '+') =
        if decide (d.lead < 0) = true then '-' else '+' := by simp
    simp only [Binary64.jsonText, hz, hd, hlarge, if_false, Decimal.scientific, hds,
      Binary64.signText, hmark, List.append_assoc, List.cons_append, Bool.false_eq_true]

/-- **The text of a binary number is read as far as it goes**, whatever follows. -/
theorem exists_floatSpelling (x : Binary64) :
    ∃ whole fraction shift, FloatSpelling x whole fraction shift := by
  by_cases hz : x.isZero = true
  · have htext : x.jsonText = x.signText ++ ['0', '.', '0'] := by
      simp [Binary64.jsonText, hz]
    refine ⟨['0'], ['0'], 0, floatSpelling_pointed ⟨rfl, rfl, List.cons_ne_nil _ _,
      List.cons_ne_nil _ _⟩ (fun _ => rfl) htext ?_⟩
    rw [Binary64.textDecimal, if_pos hz]
    rfl
  · have hm : x.significand ≠ 0 := by simpa [Binary64.isZero] using hz
    have hcoefficient :=
      Decimal.coefficient_ne_zero_of_covers hm (Decimal.covers_shortest .toEven hm)
    generalize hd : Decimal.shortest .toEven x = d at hcoefficient
    by_cases hpos : -5 ≤ d.lead ∧ d.lead ≤ 15
    · have htext : x.jsonText = x.signText ++ (d.wholeDigits ++ '.' :: d.fractionDigits) := by
        simp [Binary64.jsonText, hz, hd, hpos, Decimal.wholeDigits, Decimal.fractionDigits]
      refine ⟨d.wholeDigits, d.fractionDigits, 0, floatSpelling_pointed d.pointed_digits
        (head?_wholeDigits hcoefficient) htext ?_⟩
      rw [d.mk_digits, Binary64.textDecimal, if_neg hz, hd]
      simp only [hpos.2, and_true]
    · obtain ⟨c, ds, hspelling⟩ := exists_floatSpelling_scientific hm hd hpos
      exact ⟨[c], ds, d.lead, hspelling⟩

/-! ## Numbers in front of other text -/

theorem intText_eq_cons (n : ℤ) : ∃ c s, intText n = c :: s ∧ (c = '-' ∨ c.isDigit = true) := by
  obtain ⟨c, ds, hds, hc, -⟩ := natDigits_eq_cons n.natAbs
  unfold intText
  split
  · exact ⟨'-', _, rfl, .inl rfl⟩
  · exact ⟨c, ds, hds, .inr hc⟩

theorem jsonText_eq_cons (x : Binary64) :
    ∃ c s, x.jsonText = c :: s ∧ (c = '-' ∨ c.isDigit = true) := by
  -- a sign, or the first digit
  have hsigned {ds : List Char} (hds : ∃ c s, ds = c :: s ∧ c.isDigit = true) :
      ∃ c s, x.signText ++ ds = c :: s ∧ (c = '-' ∨ c.isDigit = true) := by
    obtain ⟨c, s, rfl, hc⟩ := hds
    unfold Binary64.signText
    split
    · exact ⟨'-', c :: s, rfl, .inl rfl⟩
    · exact ⟨c, s, rfl, .inr hc⟩
  unfold Binary64.jsonText
  simp only
  split
  · exact hsigned ⟨'0', _, rfl, by decide⟩
  · generalize Decimal.shortest .toEven x = d
    split
    · obtain ⟨c, ds, hds, hc, -⟩ :=
        exists_eq_cons_of_all d.pointed_digits.whole_ne_nil d.pointed_digits.whole_all
      rw [Decimal.wholeDigits] at hds
      rw [List.append_assoc, hds]
      exact hsigned ⟨c, _, rfl, hc⟩
    · obtain ⟨c, ds, hds, hc, -⟩ := natDigits_eq_cons d.coefficient
      rw [List.append_assoc, Decimal.scientific, hds]
      exact hsigned ⟨c, _, rfl, hc⟩

/-- The text of a number starts with a sign or a digit. -/
theorem text_eq_cons (n : Number) : ∃ c s, n.text = c :: s ∧ (c = '-' ∨ c.isDigit = true) := by
  cases n with
  | whole w => exact intText_eq_cons w.val
  | float x => exact jsonText_eq_cons x

end Json.Read

/-- The number that the text of a number is read as. -/
def Number.reread (n : Number) : Option Number := (Json.Read.number n.text).toOption.map Prod.fst

namespace Json.Read

theorem endsNumber_nil : EndsNumber [] := fun c hc => by cases hc

/-- What a number is read back as does not depend on what follows it. -/
theorem number_text (n : Number) {rest : List Char} (hrest : EndsNumber rest) :
    (number (n.text ++ rest)).toOption = n.reread.map (·, rest) := by
  rw [Number.reread, ← List.append_nil n.text, List.append_assoc, List.nil_append]
  cases n with
  | whole w =>
    rw [Number.text_whole, number_intText w hrest, number_intText w endsNumber_nil]
    rfl
  | float x =>
    obtain ⟨whole, fraction, shift, hspelling⟩ := exists_floatSpelling x
    rw [Number.text_float, hspelling.read rest hrest, hspelling.read [] endsNumber_nil]
    unfold floatNumber
    split <;> rfl

/-- An integer is read back, always. -/
@[simp] theorem reread_whole (w : Whole) : (Number.whole w).reread = some (.whole w) := by
  have hread := number_intText w endsNumber_nil
  rw [List.append_nil] at hread
  rw [Number.reread, Number.text_whole, hread]
  rfl

end Json.Read

end DocSelect
