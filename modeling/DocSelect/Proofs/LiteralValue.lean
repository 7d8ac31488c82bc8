import DocSelect.Proofs.Grammar
import DocSelect.Proofs.Lexing
import DocSelect.Proofs.Nearest
import DocSelect.Sql.Filter
/-!
# The value of a literal

The engine reads the literal of a scalar, and the value is the one that is bound for the scalar: the
two ways of handing a value to the engine agree, in type and value.

* `SqlValue.ofInt_whole` : a whole number has the same value written and bound;
* `Literal.expr` : the expression that a literal spells;
* `Literal.reads_literal` : the tokens of a literal are an operand by themselves;
* `Literal.literal_denotes` : **the literal of a scalar is read as the value that is bound for it**.
-/

namespace DocSelect

/-! ## Whole numbers -/

namespace Decimal

/-- A whole number of 64 bits is far from the bounds at which reading gives up. -/
theorem toBinary64Within?_whole {n : ℕ} (hn : 0 < n) (h : n < 2 ^ 64) :
    toBinary64Within? false ⟨n, 0⟩ = Binary64.ofNat? n := by
  have hvalue : (⟨n, 0⟩ : Decimal).toRat = n := by simp [toRat]
  have hlow : -400 ≤ (⟨n, 0⟩ : Decimal).lead := by
    simp only [lead]
    omega
  have hhigh : (⟨n, 0⟩ : Decimal).lead < 20 := by
    have hlead := ten_zpow_lead_le (d := ⟨n, 0⟩) hn.ne'
    rw [hvalue] at hlead
    refine (zpow_lt_zpow_iff_right₀ (by norm_num : (1 : ℚ) < 10)).1 (hlead.trans_lt ?_)
    calc (n : ℚ) < 2 ^ 64 := by exact_mod_cast h
      _ ≤ 10 ^ (20 : ℤ) := by norm_num
  have hwithin : exceedsLargest ⟨n, 0⟩ = false := by
    have hlargest : 2 ^ 64 ≤ Binary64.largest.ratio.1 := by decide +kernel
    simp only [exceedsLargest, decide_eq_false_iff_not, not_lt]
    simp
    omega
  rw [toBinary64Within?, toBinary64?, if_neg hn.ne', if_neg (by omega), if_neg (by omega),
    if_pos (Int.le_refl 0)]
  obtain ⟨x, hx⟩ := Binary64.exists_ofNat? h
  have hratio : Binary64.ofRatio? false n 1 = some x := hx
  simp [hwithin, hratio, hx]

end Decimal

/-- A whole number has the same value written and bound. -/
theorem SqlValue.ofInt_whole (w : Whole) : ofInt w.val = ofWhole w := by
  have hlower := w.lower
  have hupper := w.upper
  by_cases h : w.val < 0x8000000000000000
  · simp [ofInt, ofWhole, Whole.isSigned, h, hlower]
  · -- above the signed range both are the nearest binary number
    obtain ⟨n, hn⟩ := Int.eq_ofNat_of_zero_le (show 0 ≤ w.val by omega)
    rw [hn] at h hupper
    have hnonneg : ¬ (n : ℤ) < 0 := by omega
    simp only [ofInt, ofWhole, Whole.isSigned, hn, h, hnonneg, and_false, decide_false, if_false,
      Int.natAbs_natCast, Int.toNat_natCast, Bool.false_eq_true]
    rw [Decimal.toBinary64Within?_whole (by omega) (by omega)]

/-- A whole number above the signed range is a nearest binary number. -/
theorem SqlValue.exists_ofWhole {w : Whole} (h : ¬ w.val < 0x8000000000000000) :
    ∃ x : Binary64, ofWhole w = .real (.finite x) ∧ x.Nearest w.val := by
  have hupper := w.upper
  obtain ⟨n, hn⟩ := Int.eq_ofNat_of_zero_le (show 0 ≤ w.val by omega)
  obtain ⟨x, hx⟩ := Binary64.exists_ofNat? (show n < 2 ^ 64 by omega)
  refine ⟨x, ?_, ?_⟩
  · rw [ofWhole, Whole.isSigned, decide_eq_false h, if_neg Bool.false_ne_true, hn,
      Int.toNat_natCast, hx]
    rfl
  · have hnearest := Binary64.ofRatio?_nearest Nat.one_pos hx
    rw [Nat.cast_one, div_one] at hnearest
    rw [hn]
    exact_mod_cast hnearest

/-! ## Numbers in a text -/

namespace Expr

/-- A number that is not hexadecimal is read in base ten. -/
theorem numberValue?_of_decimal {negative : Bool} {c d : Char} {digits : List Char}
    (hx : d ≠ 'x') (hX : d ≠ 'X') :
    numberValue? negative (c :: d :: digits) =
      numberValue?.decimalValue? negative (c :: d :: digits) := by
  unfold numberValue?
  split
  · next heq =>
    obtain ⟨-, rfl, -⟩ := by simpa using heq
    rw [if_neg (by tauto)]
  · rfl

/-- The value of digits alone. -/
theorem numberValue?_natDigits (negative : Bool) (n : ℕ) :
    numberValue? negative (natDigits n) =
      some (SqlValue.ofInt (if negative then -(n : ℤ) else n)) := by
  have hvalue : numberValue?.decimalValue? negative (natDigits n) =
      some (SqlValue.ofInt (if negative then -(n : ℤ) else n)) := by
    unfold numberValue?.decimalValue?
    rw [if_pos (all_isDigit_natDigits n)]
    cases negative <;> simp [readInt?_natDigits, readInt?_neg_natDigits]
  match hds : natDigits n with
  | [] => exact absurd hds (natDigits_ne_nil n)
  | [c] =>
    rw [← hvalue, hds]
    unfold numberValue?
    split
    · next heq => cases heq
    · rfl
  | c :: d :: ds =>
    -- the second character is a digit, so the number is not hexadecimal
    have hd : d.isDigit = true := isDigit_of_mem_natDigits (n := n) (by simp [hds])
    rw [numberValue?_of_decimal (ne_of_class hd 'x' (by decide)) (ne_of_class hd 'X' (by decide)),
      ← hds, hvalue]

/-- The value of digits around a point is that of the text with its sign. -/
theorem numberValue?_pointed {negative : Bool} {whole fraction : List Char}
    (h : Decimal.Pointed whole fraction) :
    numberValue? negative (whole ++ '.' :: fraction) =
      SqlValue.ofFloatText? ((if negative then ['-'] else []) ++ (whole ++ '.' :: fraction)) := by
  have hvalue : numberValue?.decimalValue? negative (whole ++ '.' :: fraction) =
      SqlValue.ofFloatText? ((if negative then ['-'] else []) ++ (whole ++ '.' :: fraction)) := by
    unfold numberValue?.decimalValue?
    rw [if_neg (by simp)]
    cases negative <;> rfl
  obtain ⟨c, ds, rfl⟩ := List.exists_cons_of_ne_nil h.whole_ne_nil
  rw [← hvalue]
  cases ds with
  | nil => exact numberValue?_of_decimal (by decide) (by decide)
  | cons d ds =>
    have hd : d.isDigit = true := by
      have := h.whole_all
      simp only [List.all_cons, Bool.and_eq_true] at this
      exact this.2.1
    exact numberValue?_of_decimal (ne_of_class hd 'x' (by decide)) (ne_of_class hd 'X' (by decide))

/-- A text is read as what its tokens spell. -/
theorem ofText?_of_lexes {Follows : List Char → Prop} {s : List Char} {ts : List Token} {e : Expr}
    (h : Token.Lexes Follows s ts) (hf : Follows []) (hc : .comment ∉ ts)
    (hr : Reads (some .disjunction) ts e) : ofText? s = some e := by
  have hkeep : ts.filter (fun t => t != .comment) = ts := by
    rw [List.filter_eq_self]
    exact fun t ht => bne_iff_ne.2 fun heq => hc (heq ▸ ht)
  rw [ofText?, h.readAll? hf]
  show ofTokens? (ts.filter fun t => t != .comment) = some e
  rw [hkeep, hr.ofTokens?]

end Expr

/-! ## Literals of scalars -/

namespace Literal

/-- The expression that the literal of a scalar spells. -/
def expr : Scalar → Expr
  | .bool b => .flag b
  | .number n => .value (.ofNumber n)
  | .string s =>
    if '\x00' ∈ s.toList then .castText (.value (.blob (utf8Bytes s.toList)))
    else .value (.text (utf8Bytes s.toList))

theorem reads_signed {negative : Bool} {digits : List Char} {v : SqlValue}
    (h : Expr.numberValue? negative digits = some v) :
    Expr.Reads none (signedTokens negative digits) (.value v) := by
  apply Expr.Reads.atom
  cases negative <;> simp [signedTokens, Expr.atom?, h]

theorem reads_number (n : Number) :
    Expr.Reads none (numberTokens n) (.value (.ofNumber n)) := by
  cases n with
  | whole w =>
    have hvalue : (if decide (w.val < 0) = true then -(w.val.natAbs : ℤ) else w.val.natAbs) =
        w.val := by
      simp only [decide_eq_true_eq]
      split <;> omega
    refine reads_signed ?_
    rw [Expr.numberValue?_natDigits, hvalue, SqlValue.ofInt_whole]
    rfl
  | float x =>
    refine reads_signed ?_
    have htext := x.readWithin?_pointedText
    rw [x.pointedText_eq, Binary64.signText] at htext
    rw [Expr.numberValue?_pointed x.pointed_digits, SqlValue.ofFloatText?, htext]
    rfl

/-- The tokens of a literal are an operand by themselves. -/
theorem reads_literal (v : Scalar) : Expr.Reads none (tokens v) (expr v) := by
  match v with
  | .bool true => exact .atom rfl
  | .bool false => exact .atom rfl
  | .number n => exact reads_number n
  | .string s =>
    simp only [tokens, stringTokens, expr]
    split
    · -- bytes that are converted to text
      have hblob : Expr.Reads none [.blob (utf8Bytes s.toList)]
          (.value (.blob (utf8Bytes s.toList))) := .atom rfl
      exact .cast (by decide) (by decide) (by decide) (hblob.at_level .disjunction)
    · exact .atom rfl

/-- The value of a literal does not depend on the meaning of anything else. -/
@[simp] theorem eval_expr (i : Interpretation) (v : Scalar) :
    (expr v).eval i = SqlValue.ofScalar v := by
  cases v with
  | string s =>
    simp only [expr]
    split <;> rfl
  | _ => rfl

/-- The value of a literal for every row. -/
@[simp] theorem compute_expr (row : String → SqlValue) (v : Scalar) :
    (expr v).compute row = .ok (SqlValue.ofScalar v) := by
  cases v with
  | string s =>
    simp only [expr]
    split <;> rfl
  | _ => rfl

/-- **The literal of a scalar is read as the value that is bound for it**, in type and value: a
truth value is the integer one or zero, a whole number is that integer inside the signed range and
a nearest binary number above it, a string is the text of its bytes. A binary number is written with
digits around a point and without exponent, and read as itself. -/
theorem literal_denotes (v : Scalar) :
    (∃ e, Expr.ofText? (chars v) = some e ∧ (∀ i, e.eval i = SqlValue.ofScalar v) ∧
      ∀ row, e.compute row = .ok (SqlValue.ofScalar v)) ∧
    match v with
    | .bool b => SqlValue.ofScalar v = .integer (if b then 1 else 0)
    | .number (.whole w) =>
      if w.val < 2 ^ 63 then SqlValue.ofScalar v = .integer w.val
      else ∃ x : Binary64, SqlValue.ofScalar v = .real (.finite x) ∧ x.Nearest w.val
    | .number (.float x) =>
      SqlValue.ofScalar v = .real (.finite x) ∧ ∃ whole fraction,
        Decimal.Pointed whole fraction ∧ chars v = x.signText ++ (whole ++ '.' :: fraction)
    | .string s => SqlValue.ofScalar v = .text (utf8Bytes s.toList) := by
  have hcomment : .comment ∉ tokens v := fun h => absurd (isInert_of_mem_tokens h) (by decide)
  have hread : Expr.ofText? (chars v) = some (expr v) :=
    Expr.ofText?_of_lexes (lexes_literal v) Token.closing_nil hcomment
      ((reads_literal v).at_level .disjunction)
  refine ⟨⟨expr v, hread, fun i => eval_expr i v, fun row => compute_expr row v⟩, ?_⟩
  match v with
  | .bool b => rfl
  | .number (.whole w) =>
    show if w.val < 2 ^ 63 then _ else _
    split
    · next h =>
      simp only [SqlValue.ofScalar, SqlValue.ofNumber, SqlValue.ofWhole, Whole.isSigned,
        decide_eq_true_eq]
      exact if_pos h
    · next h => exact SqlValue.exists_ofWhole h
  | .number (.float x) =>
    refine ⟨rfl, x.wholeDigits, x.fractionDigits, x.pointed_digits, ?_⟩
    exact x.pointedText_eq
  | .string s => rfl

end Literal

end DocSelect
