import DocSelect.Proofs.FormulaTokens
/-!
# No value changes the structure of a statement

The tokens of the text with literals are those of the text with placeholders, each placeholder
replaced by the tokens of its value. A value adds the tokens of one literal and nothing else: it
starts no comment, ends no statement and leaves no placeholder behind.

* `Token.substitute` : tokens in place of placeholders;
* `Formula.substitute_tokens` : the tokens of a tree with literals, from those with placeholders;
* `Formula.nul_not_mem_inline` : **no text with literals has a zero character**;
* `Selector.SameShape` : selectors that differ only in their paths and operands;
* `Selector.token_structure` : **no path and no operand changes the structure of the statement**.
-/

namespace DocSelect

/-! ## Tokens in place of placeholders -/

namespace Token

/-- A placeholder, as it is written in predicates. -/
def placeholder : Token := .variable ['?']

/-- Puts lists of tokens for the placeholders, from left to right, one list for each. -/
def substitute : List Token → List (List Token) → Option (List Token)
  | [], vs => if vs.isEmpty then some [] else none
  | t :: ts, vs =>
    if t = placeholder then vs.head?.bind fun v => (substitute ts vs.tail).map (v ++ ·)
    else (substitute ts vs).map (t :: ·)

theorem substitute_of_written {write : Scalar → List Token} {ts us : List Token}
    {vs : List Scalar} (h : Written (fun _ => [placeholder]) write ts vs us) :
    substitute ts (vs.map write) = some us := by
  induction h with
  | nil => rfl
  | @fixed t _ _ _ ht _ ih =>
    have hne : t ≠ placeholder := by
      rintro rfl
      cases ht
    rw [substitute, if_neg hne, ih]
    rfl
  | value v _ ih =>
    rw [List.map_cons, List.singleton_append, substitute, if_pos rfl, List.head?_cons,
      List.tail_cons, ih]
    rfl

end Token

/-- The tokens of a tree with literals are those with placeholders, the tokens of each value put for
its placeholder. -/
theorem Formula.substitute_tokens (write : Scalar → List Token) (p : Formula) :
    Token.substitute (p.tokens fun _ => [Token.placeholder]) (p.values.map write) =
      some (p.tokens write) :=
  Token.substitute_of_written p.written

/-! ## Zero characters -/

namespace Predicate

/-- A character of the text between the values. -/
def isTextChar (c : Char) : Bool := c.isAlpha || [' ', '(', ')', ',', '_', '=', '<', '>'].contains c

/-- A character of a text is between the values or in the text of a value. -/
theorem mem_render {chars : Scalar → List Char} {p : Predicate} {c : Char}
    (h : c ∈ p.render chars) : c ∈ p.render (fun _ => []) ∨ ∃ v ∈ p.params, c ∈ chars v := by
  obtain ⟨f, hf, hc⟩ := List.mem_flatMap.1 h
  cases f with
  | sql t => exact .inl (List.mem_flatMap.2 ⟨_, hf, hc⟩)
  | value v => exact .inr ⟨v, List.mem_filterMap.2 ⟨_, hf, rfl⟩, hc⟩

end Predicate

theorem FieldCondition.all_isTextChar (c : FieldCondition) :
    (c.toPredicate.render fun _ => []).all Predicate.isTextChar = true := by
  have hcall (f : JsonFunction) (path : String) :
      (callChars (fun _ => []) f path).all Predicate.isTextChar = true := by
    cases f <;> rfl
  have hnull (null : Bool) : (nullChars null).all Predicate.isTextChar = true := by
    cases null <;> decide
  cases c with
  | compare path op operand =>
    have hop : op.operator.toList.all Predicate.isTextChar = true := by cases op <;> decide
    rw [toPredicate, render_compare]
    simp only [List.all_cons, List.all_append, hcall, hop]
    decide
  | present path expected =>
    rw [toPredicate, render_present]
    simp only [List.all_cons, List.all_append, hcall, hnull]
    decide
  | isNull path expected =>
    rw [toPredicate, render_isNull]
    simp only [List.all_cons, List.all_append, hcall, hnull]
    decide

namespace Formula

theorem all_isTextChar_joined {word empty : String}
    (hword : word.toList.all Predicate.isTextChar = true)
    (hempty : empty.toList.all Predicate.isTextChar = true) {parts : List Formula}
    (h : ∀ p ∈ parts, (p.toPredicate.render fun _ => []).all Predicate.isTextChar = true) :
    ((Predicate.joined word empty (parts.map toPredicate)).render fun _ => []).all
      Predicate.isTextChar = true := by
  refine parts_induction ?_ (fun p hp => ?_) (fun p q rest hp ih => ?_) parts h
  · rw [List.map_nil, Predicate.joined, Predicate.render_text]
    exact hempty
  · exact hp
  · have hblank : " ".toList.all Predicate.isTextChar = true := by decide
    simp only [List.map_cons] at ih ⊢
    simp only [Predicate.joined, Predicate.render_append, Predicate.render_text,
      String.toList_append, List.all_append, hp, ih, hword, hblank, Bool.and_self]

/-- The text between the values has letters, blanks and a few marks. -/
theorem all_isTextChar (p : Formula) :
    (p.toPredicate.render fun _ => []).all Predicate.isTextChar = true := by
  have hgroup {q : Predicate} (h : (q.render fun _ => []).all Predicate.isTextChar = true) :
      ((Predicate.grouped q).render fun _ => []).all Predicate.isTextChar = true := by
    rw [render_grouped]
    simp only [List.all_cons, List.all_append, h]
    decide
  induction p with
  | field c =>
    rw [toPredicate]
    exact c.all_isTextChar
  | all parts ih =>
    rw [toPredicate]
    exact hgroup (all_isTextChar_joined (by decide) (by decide) ih)
  | any parts ih =>
    rw [toPredicate]
    exact hgroup (all_isTextChar_joined (by decide) (by decide) ih)
  | conjunction parts ih =>
    rw [toPredicate]
    exact all_isTextChar_joined (by decide) (by decide) ih

end Formula

namespace Literal

theorem nul_not_mem_of_all_isDigit {ds : List Char} (h : ds.all Char.isDigit = true) :
    '\x00' ∉ ds := fun hmem =>
  absurd (List.all_eq_true.1 h _ hmem) (by decide)

theorem nul_not_mem_doubleQuotes {s : List Char} (h : '\x00' ∉ s) : '\x00' ∉ doubleQuotes s := by
  induction s with
  | nil => simp [doubleQuotes]
  | cons c s ih =>
    rw [List.mem_cons, not_or] at h
    have hs := ih h.2
    by_cases hc : c = '\''
    · simp [doubleQuotes, hc, hs]
    · simp [doubleQuotes, hc, hs, h.1]

theorem nul_not_mem_hexBytes (bytes : List UInt8) : '\x00' ∉ hexBytes bytes := by
  intro h
  obtain ⟨b, -, hb⟩ := List.mem_flatMap.1 h
  have hdigit (n : ℕ) : '\x00' ≠ hexDigitUpper n :=
    (ne_of_class (Token.hexDigitUpper_spec n).1 '\x00' (by decide)).symm
  simp only [List.mem_cons, List.not_mem_nil, or_false] at hb
  exact hb.elim (hdigit _) (hdigit _)

/-- **No literal has a zero character.** -/
theorem nul_not_mem_chars (v : Scalar) : '\x00' ∉ chars v := by
  match v with
  | .bool true => decide
  | .bool false => decide
  | .number (.whole w) =>
    have hdigits := nul_not_mem_of_all_isDigit (all_isDigit_natDigits w.val.natAbs)
    simp only [chars, numberChars, intText]
    split <;> simp [hdigits]
  | .number (.float x) =>
    have hwhole := nul_not_mem_of_all_isDigit x.pointed_digits.whole_all
    have hfraction := nul_not_mem_of_all_isDigit x.pointed_digits.fraction_all
    simp only [chars, numberChars, Binary64.pointedText_eq, Binary64.signText]
    split <;> simp [hwhole, hfraction]
  | .string s =>
    simp only [chars, quotedChars]
    split
    · unfold hexText
      simp only [List.mem_append, not_or]
      exact ⟨⟨by decide, nul_not_mem_hexBytes _⟩, by decide⟩
    · next h => simp [nul_not_mem_doubleQuotes h]

end Literal

/-- **No text with literals has a zero character.** -/
theorem Formula.nul_not_mem_inline (p : Formula) : '\x00' ∉ p.toPredicate.inline.toList := by
  intro h
  rw [Predicate.inline, String.toList_ofList, Predicate.inlineChars_eq_render] at h
  rcases Predicate.mem_render h with h | ⟨v, -, h⟩
  · exact absurd (List.all_eq_true.1 p.all_isTextChar _ h) (by decide)
  · exact Literal.nul_not_mem_chars v h

/-! ## Selectors of one shape -/

/-- The clause without its paths and operands. -/
def Clause.blank : Clause → Clause
  | .equals _ _ => .equals "" (.string "")
  | .field _ (.compare op _) => .field "" (.compare op (.string ""))
  | .field _ (.present b) => .field "" (.present b)
  | .all selectors => .all (selectors.map fun s => s.map blank)
  | .any selectors => .any (selectors.map fun s => s.map blank)
  | .directive d _ => .directive d ""
decreasing_by
  all_goals
    have hlt := sizeOf_lt_of_mem ‹_ ∈ _› ‹_ ∈ selectors›
    simp
    omega

/-- The selectors have the same nesting, operators and directives: they differ only in the paths and
in the operands of their comparisons. -/
def Selector.SameShape (s t : Selector) : Prop := s.map Clause.blank = t.map Clause.blank

/-- If all values are written alike, paths and operands do not enter into the tokens. -/
theorem Clause.tokens_blank (us : List Token) (c : Clause) :
    c.blank.formula.tokens (fun _ => us) = c.formula.tokens fun _ => us := by
  induction c with
  | equals path v => simp only [blank, formula, Formula.tokens]; rfl
  | field path test => cases test <;> (simp only [blank, formula, Formula.tokens]; rfl)
  | all selectors ih =>
    simp only [blank, formula, Formula.tokens, List.map_map, Function.comp_def]
    rw [map_elements_congr (fun ts => FieldCondition.group (joinedTokens "AND" "TRUE" ts)) ih]
  | any selectors ih =>
    simp only [blank, formula, Formula.tokens, List.map_map, Function.comp_def]
    rw [map_elements_congr (fun ts => FieldCondition.group (joinedTokens "AND" "TRUE" ts)) ih]
  | directive d path => cases d <;> (simp only [blank, formula, Formula.tokens]; rfl)

/-- With all values alike, selectors of one shape have the same tokens. -/
theorem Selector.SameShape.tokens_eq {s t : Selector} (h : s.SameShape t) (us : List Token) :
    s.formula.tokens (fun _ => us) = t.formula.tokens fun _ => us := by
  have hblank (s : Selector) : s.formula.tokens (fun _ => us) =
      joinedTokens "AND" "TRUE"
        ((s.map Clause.blank).map fun c => c.formula.tokens fun _ => us) := by
    simp only [formula, Formula.tokens, List.map_map, Function.comp_def, Clause.tokens_blank]
  rw [hblank s, hblank t, h]

namespace Token

/-- The token without the contents of a string literal. -/
def eraseString : Token → Token
  | .string _ => .string []
  | t => t

/-- Where all values are string literals, the tokens without contents do not depend on them. -/
theorem map_eraseString_of_written {write : Scalar → List Token} {ts us : List Token}
    {vs : List Scalar} (h : Written write (fun _ => [.string []]) ts vs us)
    (hwrite : ∀ v ∈ vs, (write v).map eraseString = [.string []]) : ts.map eraseString = us := by
  induction h with
  | nil => rfl
  | @fixed t _ _ _ ht _ ih =>
    have herase : t.eraseString = t := by
      cases t with
      | string s => cases ht
      | _ => rfl
    rw [List.map_cons, herase, ih hwrite]
  | value v _ ih =>
    rw [List.forall_mem_cons] at hwrite
    rw [List.map_append, hwrite.1, ih hwrite.2]

end Token

/-- A string without zero characters. -/
def Scalar.IsPlain : Scalar → Prop
  | .string s => '\x00' ∉ s.toList
  | _ => False

instance (v : Scalar) : Decidable v.IsPlain :=
  match v with
  | .string s => inferInstanceAs (Decidable ('\x00' ∉ s.toList))
  | .bool _ | .number _ => .isFalse id

theorem Literal.map_eraseString_tokens {v : Scalar} (h : v.IsPlain) :
    (tokens v).map Token.eraseString = [.string []] := by
  cases v with
  | bool b => exact h.elim
  | number n => exact h.elim
  | string s =>
    rw [tokens, stringTokens, if_neg h]
    rfl

/-! ## The tokens of the texts of a selector -/

namespace Selector

/-- The text with literals is lexed, whatever the values are. -/
theorem readAll?_inline (s : Selector) :
    Token.readAll? s.toPredicate.inline.toList = some (s.formula.tokens Literal.tokens) := by
  rw [Predicate.inline, String.toList_ofList, Predicate.inlineChars_eq_render,
    ← s.toPredicate_formula]
  exact (s.formula.lexes Literal.lexes_literal).readAll? Token.closing_nil

theorem readAll?_bound (s : Selector) :
    Token.readAll? s.toPredicate.bound.sql.toList =
      some (s.formula.tokens fun _ => [Token.placeholder]) := by
  rw [Predicate.bound, String.toList_ofList, Predicate.boundChars_eq_render,
    ← s.toPredicate_formula]
  exact (s.formula.lexes fun _ => Token.lexes_placeholder).readAll? Token.closing_nil

/-- Where all paths and operands are strings without zero characters, the tokens without the
contents of string literals do not depend on them. -/
theorem map_eraseString_tokens {s : Selector} (h : ∀ v ∈ s.values, v.IsPlain) :
    (s.formula.tokens Literal.tokens).map Token.eraseString =
      s.formula.tokens fun _ => [.string []] := by
  have hwritten : Token.Written Literal.tokens (fun _ => [.string []]) _ _ _ := s.formula.written
  rw [s.values_formula] at hwritten
  refine Token.map_eraseString_of_written hwritten fun v hv => ?_
  exact Literal.map_eraseString_tokens (h v hv)

/-- **No path and no operand changes the structure of the statement.** The text with literals has no
zero character. Its tokens are those of the text with placeholders, the tokens of each value put for
its placeholder; among them is no comment, no end of a statement and no placeholder. Selectors of
one shape whose paths and operands are strings without zero characters differ only in the contents
of string literals. -/
theorem token_structure (s : Selector) :
    '\x00' ∉ s.toPredicate.inline.toList ∧
    (∃ ts vs us, Token.readAll? s.toPredicate.bound.sql.toList = some ts ∧
      s.toPredicate.bound.params.mapM (fun v => Token.readAll? (Literal.ofScalar v).toList) =
        some vs ∧
      Token.readAll? s.toPredicate.inline.toList = some us ∧
      Token.substitute ts vs = some us ∧
      ∀ t ∈ us, t ≠ .comment ∧ t ≠ .sign [';'] ∧ ∀ name, t ≠ .variable name) ∧
    ∀ t : Selector, s.SameShape t → (∀ v ∈ s.values, v.IsPlain) → (∀ v ∈ t.values, v.IsPlain) →
      ∃ us ws, Token.readAll? s.toPredicate.inline.toList = some us ∧
        Token.readAll? t.toPredicate.inline.toList = some ws ∧
        us.map Token.eraseString = ws.map Token.eraseString := by
  refine ⟨?_, ⟨_, s.values.map Literal.tokens, _, s.readAll?_bound, ?_, s.readAll?_inline,
    ?_, ?_⟩, ?_⟩
  · rw [← s.toPredicate_formula]
    exact s.formula.nul_not_mem_inline
  · have hread : (fun v => Token.readAll? (Literal.ofScalar v).toList) =
        fun v => some (Literal.tokens v) := funext fun v => by
      rw [Literal.toList_ofScalar]
      exact (Literal.lexes_literal v).readAll? Token.closing_nil
    rw [hread, Predicate.bound, s.params_toPredicate]
    exact List.mapM_pure
  · rw [← s.values_formula]
    exact s.formula.substitute_tokens Literal.tokens
  · -- a token is one between the values or one of a literal
    have hwritten : Token.Written Literal.tokens Literal.tokens _ _ _ := s.formula.written
    intro t ht
    have hinert : t.isInert = true :=
      hwritten.forall_mem (fun _ => Token.isInert_of_isFixed)
        (fun v _ t ht => Literal.isInert_of_mem_tokens ht) t ht
    refine ⟨?_, ?_, ?_⟩
    · rintro rfl
      cases hinert
    · rintro rfl
      cases hinert
    · rintro name rfl
      cases hinert
  · -- without contents the tokens are those of the shape, each value an empty string
    intro t hshape hs ht
    refine ⟨_, _, s.readAll?_inline, t.readAll?_inline, ?_⟩
    rw [map_eraseString_tokens hs, map_eraseString_tokens ht, hshape.tokens_eq]

/-- Quotes, comments and placeholders inside of strings stay there. -/
theorem token_structure_quotes :
    ∃ us ws,
      Token.readAll? (toPredicate [.equals "a'--" (.string "?; /*")]).inline.toList = some us ∧
      Token.readAll? (toPredicate [.equals "b" (.string "")]).inline.toList = some ws ∧
      us.map Token.eraseString = ws.map Token.eraseString :=
  (token_structure [.equals "a'--" (.string "?; /*")]).2.2 [.equals "b" (.string "")]
    (by simp [SameShape, Clause.blank])
    (by
      simp only [values, List.flatMap_cons, List.flatMap_nil, Clause.values, List.append_nil]
      decide)
    (by
      simp only [values, List.flatMap_cons, List.flatMap_nil, Clause.values, List.append_nil]
      decide)

end Selector

end DocSelect
