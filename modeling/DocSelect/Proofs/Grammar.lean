import Mathlib.Data.Nat.Notation
import DocSelect.Sql.ExprReader
/-!
# The grammar of expressions, and its reader

The grammar says which expression a list of tokens spells: operators of one level group to the
left, and the operands of a level are expressions of the next tighter one. The reader finds the
expression whenever the grammar has one, so a list of tokens spells one expression at most.

* `Expr.Reads` : the grammar;
* `Expr.Reads.ofTokens?` : **the reader is complete**;
* `Expr.Reads.unique` : **a list of tokens has one reading at most**.
-/

namespace DocSelect.Expr

/-! ## The grammar -/

/-- The operator with two operands that a token is at a level. -/
def Level.operator? : Level → Token → Option (Expr → Expr → Expr)
  | disjunction, t => if isWord "or" t then some Expr.or else none
  | conjunction, t => if isWord "and" t then some Expr.and else none
  | equality, .sign mark => (equalitySign? mark).map Expr.compare
  | equality, .word name => (equalityWord? (.word name)).map Expr.compare
  | order, .sign mark => (orderSign? mark).map Expr.compare
  | _, _ => none

/-- The tokens spell the expression, at a level or as an operand without operators. -/
inductive Reads : Option Level → List Token → Expr → Prop
  /-- What binds tighter is an expression of the level. -/
  | tighter {l : Level} {ts : List Token} {e : Expr} (h : Reads l.tighter? ts e) :
      Reads (some l) ts e
  /-- An operator of the level; the operand on its right binds tighter. -/
  | binary {l : Level} {t : Token} {make : Expr → Expr → Expr} {ts us : List Token} {a b : Expr}
      (hop : l.operator? t = some make) (left : Reads (some l) ts a)
      (right : Reads l.tighter? us b) : Reads (some l) (ts ++ t :: us) (make a b)
  /-- `IS NULL`. -/
  | isNull {t u : Token} {ts : List Token} {a : Expr} (ht : isWord "is" t = true)
      (hu : isWord "null" u = true) (h : Reads (some .equality) ts a) :
      Reads (some .equality) (ts ++ [t, u]) (a.isNull true)
  /-- `IS NOT NULL`. -/
  | isNotNull {t u v : Token} {ts : List Token} {a : Expr} (ht : isWord "is" t = true)
      (hu : isWord "not" u = true) (hv : isWord "null" v = true)
      (h : Reads (some .equality) ts a) :
      Reads (some .equality) (ts ++ [t, u, v]) (a.isNull false)
  /-- An expression in parentheses. -/
  | group {ts : List Token} {e : Expr} (h : Reads (some .disjunction) ts e) :
      Reads none (.sign ['('] :: (ts ++ [.sign [')']])) e
  /-- A function of two arguments. -/
  | call {t : Token} {f : JsonFunction} {ts us : List Token} {a b : Expr}
      (ht : functionOf? t = some f) (ha : Reads (some .disjunction) ts a)
      (hb : Reads (some .disjunction) us b) :
      Reads none (t :: .sign ['('] :: (ts ++ .sign [','] :: (us ++ [.sign [')']]))) (call f a b)
  /-- A conversion to text. -/
  | cast {t u v : Token} {ts : List Token} {e : Expr} (ht : isWord "cast" t = true)
      (hu : isWord "as" u = true) (hv : isWord "text" v = true)
      (h : Reads (some .disjunction) ts e) :
      Reads none (t :: .sign ['('] :: (ts ++ [u, v, .sign [')']])) (castText e)
  /-- A literal, a placeholder or a column. -/
  | atom {ts : List Token} {e : Expr} (h : atom? ts = some (e, [])) : Reads none ts e

/-- What binds tightest is an expression of every level. -/
theorem Reads.at_level {ts : List Token} {e : Expr} (h : Reads none ts e) (l : Level) :
    Reads (some l) ts e := by
  have horder : Reads (some .order) ts e := .tighter h
  have hequality : Reads (some .equality) ts e := .tighter horder
  have hconjunction : Reads (some .conjunction) ts e := .tighter hequality
  cases l with
  | order => exact horder
  | equality => exact hequality
  | conjunction => exact hconjunction
  | disjunction => exact .tighter hconjunction

/-! ## Words -/

/-- A token is one word at most. -/
theorem isWord_false_of_isWord {t : Token} {v w : String} (h : isWord v t = true)
    (hne : v ≠ w) : isWord w t = false := by
  cases t with
  | word name =>
    simp only [isWord, beq_iff_eq, beq_eq_false_iff_ne] at h ⊢
    rw [h]
    exact fun heq => hne (String.toList_inj.1 heq)
  | _ => rfl

/-! ## Operators behind an operand -/

/-- How many levels bind at least as tight. -/
def Level.rank : Option Level → ℕ
  | none => 0
  | some order => 1
  | some equality => 2
  | some conjunction => 3
  | some disjunction => 4

theorem Level.rank_tighter? (l : Level) : rank l.tighter? + 1 = rank (some l) := by
  cases l <;> rfl

theorem Level.rank_le (l : Option Level) : rank l ≤ 4 := by
  rcases l with _ | l
  · exact Nat.zero_le 4
  · cases l <;> decide

/-- An operator of a level goes on with an operand of the next tighter one. -/
theorem follower_of_operator? {l : Level} {t : Token} {make : Expr → Expr → Expr}
    (h : l.operator? t = some make) (us : List Token) :
    follower l (t :: us) = .binary make us := by
  cases l with
  | disjunction =>
    simp only [Level.operator?, Option.ite_none_right_eq_some, Option.some.injEq] at h
    simp [follower, h.1, ← h.2]
  | conjunction =>
    simp only [Level.operator?, Option.ite_none_right_eq_some, Option.some.injEq] at h
    simp [follower, h.1, ← h.2]
  | equality =>
    cases t with
    | sign mark =>
      obtain ⟨op, hop, rfl⟩ := Option.map_eq_some_iff.1 h
      simp [follower, hop]
    | word name =>
      obtain ⟨op, hop, rfl⟩ := Option.map_eq_some_iff.1 h
      simp [follower, hop]
    | _ => cases h
  | order =>
    cases t with
    | sign mark =>
      obtain ⟨op, hop, rfl⟩ := Option.map_eq_some_iff.1 h
      simp [follower, hop]
    | _ => cases h

/-- `IS` starts an operator that no comparison is. -/
theorem equalityWord?_of_is {t : Token} (ht : isWord "is" t = true) : equalityWord? t = none := by
  simp [equalityWord?, isWord_false_of_isWord ht (w := "like") (by decide),
    isWord_false_of_isWord ht (w := "glob") (by decide),
    isWord_false_of_isWord ht (w := "regexp") (by decide)]

theorem follower_isNull {t u : Token} (ht : isWord "is" t = true) (hu : isWord "null" u = true)
    (rest : List Token) :
    follower .equality (t :: u :: rest) = .postfixed (fun e => isNull e true) rest := by
  cases t with
  | word name => simp [follower, equalityWord?_of_is ht, ht, hu]
  | _ => cases ht

theorem follower_isNotNull {t u v : Token} (ht : isWord "is" t = true)
    (hu : isWord "not" u = true) (hv : isWord "null" v = true) (rest : List Token) :
    follower .equality (t :: u :: v :: rest) = .postfixed (fun e => isNull e false) rest := by
  have hnull : isWord "null" u = false := isWord_false_of_isWord hu (by decide)
  cases t with
  | word name => simp [follower, equalityWord?_of_is ht, ht, hnull, hu, hv]
  | _ => cases ht

/-- The words that start an operator of a level. -/
def Level.words : Level → List String
  | disjunction => ["or"]
  | conjunction => ["and"]
  | equality => ["like", "glob", "regexp", "is"]
  | order => []

/-- A word that is none of the operators of a level ends its operands. -/
theorem follower_of_isWord {t : Token} {w : String} (h : isWord w t = true) {l : Level}
    (hw : w ∉ l.words) (us : List Token) : follower l (t :: us) = .none := by
  have hother (v : String) (hv : v ∈ l.words) : isWord v t = false :=
    isWord_false_of_isWord h fun heq => hw (heq ▸ hv)
  cases t with
  | word name =>
    cases l with
    | disjunction => simp [follower, hother "or" (by decide)]
    | conjunction => simp [follower, hother "and" (by decide)]
    | equality =>
      have hword : equalityWord? (.word name) = none := by
        simp [equalityWord?, hother "like" (by decide), hother "glob" (by decide),
          hother "regexp" (by decide)]
      cases us <;> simp [follower, hword, hother "is" (by decide)]
    | order => rfl
  | _ => cases h

/-- No operator of the level or of a tighter one starts here, and no list of arguments. -/
structure Ends (l : Option Level) (ts : List Token) : Prop where
  /-- No parenthesis opens. -/
  no_arguments : mark? ['('] ts = none
  /-- No operator starts. -/
  follower_eq : ∀ m : Level, Level.rank (some m) ≤ Level.rank l → follower m ts = .none

theorem Ends.nil (l : Option Level) : Ends l [] :=
  ⟨rfl, fun m _ => by cases m <;> rfl⟩

theorem Ends.close (l : Option Level) (ts : List Token) : Ends l (.sign [')'] :: ts) :=
  ⟨rfl, fun m _ => by cases m <;> rfl⟩

theorem Ends.comma (l : Option Level) (ts : List Token) : Ends l (.sign [','] :: ts) :=
  ⟨rfl, fun m _ => by cases m <;> rfl⟩

/-- What ends an expression ends one that binds tighter. -/
theorem Ends.tighter {l : Level} {ts : List Token} (h : Ends (some l) ts) : Ends l.tighter? ts :=
  ⟨h.no_arguments, fun m hm => h.follower_eq m (by have := l.rank_tighter?; omega)⟩

/-- A word ends an expression if it starts an operator neither of its level nor of a tighter one. -/
theorem Ends.of_isWord {t : Token} {w : String} (h : isWord w t = true) {l : Option Level}
    (hw : ∀ m : Level, Level.rank (some m) ≤ Level.rank l → w ∉ m.words) (ts : List Token) :
    Ends l (t :: ts) where
  no_arguments := by
    cases t with
    | word name => rfl
    | _ => cases h
  follower_eq m hm := follower_of_isWord h (hw m hm) ts

/-- `IS` is no operator of a level that binds tighter than equality. -/
theorem Ends.is {t : Token} (h : isWord "is" t = true) (ts : List Token) :
    Ends Level.equality.tighter? (t :: ts) :=
  .of_isWord h (fun m hm => by
    cases m with
    | order => decide
    | _ => exact absurd hm (by decide)) ts

/-- An operator of a level is none of a tighter level. -/
theorem Ends.of_operator? {l : Level} {t : Token} {make : Expr → Expr → Expr}
    (h : l.operator? t = some make) (ts : List Token) : Ends l.tighter? (t :: ts) := by
  cases l with
  | disjunction =>
    simp only [Level.operator?, Option.ite_none_right_eq_some] at h
    refine .of_isWord h.1 (fun m hm => ?_) ts
    cases m with
    | disjunction => exact absurd hm (by decide)
    | _ => decide
  | conjunction =>
    simp only [Level.operator?, Option.ite_none_right_eq_some] at h
    refine .of_isWord h.1 (fun m hm => ?_) ts
    cases m with
    | conjunction => exact absurd hm (by decide)
    | _ => decide
  | equality =>
    cases t with
    | sign mark =>
      obtain ⟨op, hop, -⟩ := Option.map_eq_some_iff.1 h
      refine ⟨?_, fun m hm => ?_⟩
      · rw [mark?, if_neg]
        rintro rfl
        exact absurd hop (by simp [equalitySign?])
      · cases m with
        | order =>
          have hnone : orderSign? mark = none := by
            revert hop
            unfold equalitySign?
            split <;> simp [orderSign?]
          simp [follower, hnone]
        | _ => exact absurd hm (by decide)
    | word name =>
      refine ⟨rfl, fun m hm => ?_⟩
      cases m with
      | order => rfl
      | _ => exact absurd hm (by decide)
    | _ => cases h
  | order =>
    refine ⟨?_, fun m hm => by cases m <;> exact absurd hm (by decide)⟩
    cases t with
    | sign mark =>
      obtain ⟨op, hop, -⟩ := Option.map_eq_some_iff.1 h
      rw [mark?, if_neg]
      rintro rfl
      exact absurd hop (by simp [orderSign?])
    | _ => cases h

/-! ## The reader is complete -/

/-- Reads an expression of a level, or an operand without operators. -/
def readAt? (fuel : ℕ) : Option Level → List Token → Option (Expr × List Token)
  | some l => read? fuel l
  | none => operand? fuel

/-- An expression of a level is an operand of the next tighter one and what goes on from it. -/
theorem read?_succ (fuel : ℕ) (l : Level) (ts : List Token) :
    read? (fuel + 1) l ts =
      (readAt? fuel l.tighter? ts).bind fun r => follow? fuel l r.1 r.2 := by
  cases l <;> rfl

/-- Behind an operator an operand is read, and the expression so far is the first one: operators of
one level group to the left. -/
theorem follow?_binary {fuel : ℕ} {l : Level} {e : Expr} {ts rest : List Token}
    {make : Expr → Expr → Expr} (h : follower l ts = .binary make rest) :
    follow? (fuel + 1) l e ts =
      (readAt? fuel l.tighter? rest).bind fun r => follow? fuel l (make e r.1) r.2 := by
  rw [follow?, h]
  cases l <;> rfl

/-- A condition behind an operand goes around it, and more may follow. -/
theorem follow?_postfixed {fuel : ℕ} {l : Level} {e : Expr} {ts rest : List Token}
    {make : Expr → Expr} (h : follower l ts = .postfixed make rest) :
    follow? (fuel + 1) l e ts = follow? fuel l (make e) rest := by
  rw [follow?, h]

theorem follow?_none {fuel : ℕ} {l : Level} {e : Expr} {ts : List Token}
    (h : follower l ts = .none) : follow? (fuel + 1) l e ts = some (e, ts) := by
  rw [follow?, h]

/-- Literals, placeholders and columns do not depend on what follows. -/
theorem atom?_append {ts : List Token} {e : Expr} (h : atom? ts = some (e, []))
    (rest : List Token) : atom? (ts ++ rest) = some (e, rest) := by
  unfold atom? at h
  split at h
  case h_1 | h_2 | h_5 | h_7 =>
    obtain ⟨rfl, rfl⟩ := Prod.mk.inj (Option.some.inj h)
    rfl
  case h_3 digits us | h_4 digits us =>
    obtain ⟨v, hv, heq⟩ := Option.map_eq_some_iff.1 h
    obtain ⟨rfl, rfl⟩ := Prod.mk.inj heq
    simp [atom?, hv]
  case h_6 name us =>
    -- a word is a truth value, `NULL` or a column
    simp only at h
    repeat' split at h
    all_goals
      obtain ⟨rfl, rfl⟩ := Prod.mk.inj (Option.some.inj h)
      simp_all [atom?]
  case h_8 => cases h

/-- A literal, a placeholder or a column is one token, or a number behind its sign. -/
theorem eq_of_atom? {ts : List Token} {e : Expr} (h : atom? ts = some (e, [])) :
    (∃ t, ts = [t] ∧ t ≠ .sign ['(']) ∨ ∃ digits, ts = [.sign ['-'], .number digits] := by
  unfold atom? at h
  split at h
  case h_1 | h_2 | h_5 | h_7 =>
    obtain ⟨-, rfl⟩ := Prod.mk.inj (Option.some.inj h)
    exact .inl ⟨_, rfl, by simp⟩
  case h_3 digits us =>
    obtain ⟨v, -, heq⟩ := Option.map_eq_some_iff.1 h
    obtain ⟨-, rfl⟩ := Prod.mk.inj heq
    exact .inl ⟨_, rfl, by simp⟩
  case h_4 digits us =>
    obtain ⟨v, -, heq⟩ := Option.map_eq_some_iff.1 h
    obtain ⟨-, rfl⟩ := Prod.mk.inj heq
    exact .inr ⟨digits, rfl⟩
  case h_6 name us =>
    simp only at h
    repeat' split at h
    all_goals
      obtain ⟨-, rfl⟩ := Prod.mk.inj (Option.some.inj h)
      exact .inl ⟨_, rfl, by simp⟩
  case h_8 => cases h

/-- A literal or a name is an operand unless arguments follow it. -/
theorem operand?_atom {ts rest : List Token} {e : Expr} (h : atom? ts = some (e, []))
    (hrest : mark? ['('] rest = none) (fuel : ℕ) :
    operand? (fuel + 1) (ts ++ rest) = some (e, rest) := by
  rw [← atom?_append h rest]
  rcases eq_of_atom? h with ⟨t, rfl, ht⟩ | ⟨digits, rfl⟩
  · -- the token opens no parenthesis, and no list of arguments follows it
    rw [operand?]
    · exact fun us heq => ht (List.cons.inj heq).1
    · intro u us heq
      rw [show rest = .sign ['('] :: us from (List.cons.inj heq).2] at hrest
      cases hrest
  · rfl

theorem operand?_group (fuel : ℕ) (ts : List Token) :
    operand? (fuel + 1) (.sign ['('] :: ts) =
      (read? fuel .disjunction ts).bind fun r =>
        (mark? [')'] r.2).bind fun rest => some (r.1, rest) := rfl

/-- A function takes two expressions of any level, since its parentheses and commas end them. -/
theorem operand?_call {t : Token} {f : JsonFunction} (ht : functionOf? t = some f) (fuel : ℕ)
    (ts : List Token) :
    operand? (fuel + 1) (t :: .sign ['('] :: ts) =
      (read? fuel .disjunction ts).bind fun r =>
        (mark? [','] r.2).bind fun us =>
          (read? fuel .disjunction us).bind fun s =>
            (mark? [')'] s.2).bind fun rest => some (call f r.1 s.1, rest) := by
  cases t with
  | word name =>
    simp only [operand?, ht]
    rfl
  | _ => cases ht

theorem operand?_cast {t : Token} (ht : isWord "cast" t = true) (fuel : ℕ) (ts : List Token) :
    operand? (fuel + 1) (t :: .sign ['('] :: ts) =
      (read? fuel .disjunction ts).bind fun r =>
        (word? "as" r.2).bind fun us =>
          (word? "text" us).bind fun vs =>
            (mark? [')'] vs).bind fun rest => some (castText r.1, rest) := by
  have hnone : functionOf? t = none := by
    simp [functionOf?, JsonFunction.all, JsonFunction.name,
      isWord_false_of_isWord ht (w := "json_extract") (by decide),
      isWord_false_of_isWord ht (w := "json_type") (by decide)]
  cases t with
  | word name =>
    simp only [operand?, hnone, ht]
    rfl
  | _ => cases ht

/-! ### What the reader finds for each form of the grammar -/

/-- Fuel that is enough for an expression of a level. -/
def cost (l : Option Level) (ts : List Token) : ℕ := 8 * ts.length + Level.rank l

/-- The reader finds the expression in front of whatever ends it. At a level, it then goes on with
the operators of the level. -/
def Found : Option Level → List Token → Expr → Prop
  | none, ts, e => ∀ (fuel : ℕ) (rest : List Token), cost none ts < fuel → Ends none rest →
      operand? fuel (ts ++ rest) = some (e, rest)
  | some l, ts, e => ∀ (fuel : ℕ) (rest : List Token), cost (some l) ts < fuel →
      Ends l.tighter? rest → ∃ left, fuel ≤ left + cost (some l) ts ∧
        read? fuel l (ts ++ rest) = follow? left l e rest

namespace Found

variable {l : Level} {ts us : List Token} {e a b : Expr}

/-- With enough fuel, an expression is found before any tokens that end it. -/
theorem readAt? {l : Option Level} {rest : List Token} {fuel : ℕ} (h : Found l ts e)
    (hf : cost l ts < fuel) (hr : Ends l rest) : readAt? fuel l (ts ++ rest) = some (e, rest) := by
  cases l with
  | none => exact h _ _ hf hr
  | some l =>
    obtain ⟨left, hleft, heq⟩ := h _ _ hf hr.tighter
    obtain ⟨left, rfl⟩ : ∃ n, left = n + 1 := ⟨left - 1, by omega⟩
    rw [Expr.readAt?, heq, follow?_none (hr.follower_eq l (Nat.le_refl _))]

/-- An expression inside of an operand: the operand has more tokens. -/
theorem inside {fuel : ℕ} {rest : List Token} (h : Found (some .disjunction) ts e)
    (hf : cost none us < fuel + 1) (hlen : ts.length < us.length)
    (hr : Ends (some .disjunction) rest) : read? fuel .disjunction (ts ++ rest) = some (e, rest) :=
  h.readAt? (by
    simp only [cost, Level.rank] at hf ⊢
    omega) hr

/-- What binds tighter is found at a level, since no operator of the level follows it. -/
theorem tighter (h : Found l.tighter? ts e) : Found (some l) ts e := by
  intro fuel rest hf hr
  obtain ⟨fuel, rfl⟩ : ∃ n, fuel = n + 1 := ⟨fuel - 1, by omega⟩
  have hrank := l.rank_tighter?
  simp only [cost] at hf
  refine ⟨fuel, by simp only [cost]; omega, ?_⟩
  rw [read?_succ, h.readAt? (by simp only [cost]; omega) hr]
  rfl

/-- The left operand has the level of the operator, so it is found with the operators before this
one; then the right one is found behind the operator. -/
theorem binary {t : Token} {make : Expr → Expr → Expr} (hop : l.operator? t = some make)
    (hleft : Found (some l) ts a) (hright : Found l.tighter? us b) :
    Found (some l) (ts ++ t :: us) (make a b) := by
  intro fuel rest hf hr
  have hrank := l.rank_tighter?
  have hle := Level.rank_le (some l)
  simp only [cost, List.length_append, List.length_cons] at hf ⊢
  -- the reader stands behind the left operand, with fuel for the operator and the right one
  obtain ⟨left, hfuel, heq⟩ := hleft fuel (t :: (us ++ rest))
    (by simp only [cost]; omega) (Ends.of_operator? hop _)
  simp only [cost] at hfuel
  obtain ⟨left, rfl⟩ : ∃ n, left = n + 1 := ⟨left - 1, by omega⟩
  refine ⟨left, by omega, ?_⟩
  rw [List.append_assoc, List.cons_append, heq, follow?_binary (follower_of_operator? hop _),
    hright.readAt? (by simp only [cost]; omega) hr]
  rfl

/-- An operator behind its only operand. -/
theorem postfixed {make : Expr → Expr} (us : List Token) (hus : us ≠ [])
    (hop : ∀ rest, follower l (us ++ rest) = .postfixed make rest)
    (hends : ∀ rest, Ends l.tighter? (us ++ rest)) (h : Found (some l) ts a) :
    Found (some l) (ts ++ us) (make a) := by
  intro fuel rest hf hr
  have hlen := List.length_pos_iff.2 hus
  simp only [cost, List.length_append] at hf ⊢
  obtain ⟨left, hfuel, heq⟩ := h fuel (us ++ rest) (by simp only [cost]; omega) (hends rest)
  simp only [cost] at hfuel
  obtain ⟨left, rfl⟩ : ∃ n, left = n + 1 := ⟨left - 1, by omega⟩
  refine ⟨left, by omega, ?_⟩
  rw [List.append_assoc, heq, follow?_postfixed (hop rest)]

/-- Parentheses are found around an expression of any level. -/
theorem group (h : Found (some .disjunction) ts e) :
    Found none (.sign ['('] :: (ts ++ [.sign [')']])) e := by
  intro fuel rest hf hr
  obtain ⟨fuel, rfl⟩ : ∃ n, fuel = n + 1 := ⟨fuel - 1, by omega⟩
  have hread : read? fuel .disjunction (ts ++ .sign [')'] :: rest) =
      some (e, .sign [')'] :: rest) := by
    refine h.inside hf ?_ (Ends.close _ rest)
    simp only [List.length_append, List.length_cons, List.length_nil]
    omega
  rw [List.cons_append, List.append_assoc, operand?_group]
  simp [hread, mark?]

theorem call {t : Token} {f : JsonFunction} (ht : functionOf? t = some f)
    (ha : Found (some .disjunction) ts a) (hb : Found (some .disjunction) us b) :
    Found none (t :: .sign ['('] :: (ts ++ .sign [','] :: (us ++ [.sign [')']])))
      (.call f a b) := by
  intro fuel rest hf hr
  obtain ⟨fuel, rfl⟩ : ∃ n, fuel = n + 1 := ⟨fuel - 1, by omega⟩
  have hreada : read? fuel .disjunction (ts ++ .sign [','] :: (us ++ .sign [')'] :: rest)) =
      some (a, .sign [','] :: (us ++ .sign [')'] :: rest)) := by
    refine ha.inside hf ?_ (Ends.comma _ _)
    simp only [List.length_append, List.length_cons, List.length_nil]
    omega
  have hreadb : read? fuel .disjunction (us ++ .sign [')'] :: rest) =
      some (b, .sign [')'] :: rest) := by
    refine hb.inside hf ?_ (Ends.close _ rest)
    simp only [List.length_append, List.length_cons, List.length_nil]
    omega
  simp [operand?_call ht, hreada, hreadb, mark?]

theorem cast {t u v : Token} (ht : isWord "cast" t = true) (hu : isWord "as" u = true)
    (hv : isWord "text" v = true) (h : Found (some .disjunction) ts e) :
    Found none (t :: .sign ['('] :: (ts ++ [u, v, .sign [')']])) (castText e) := by
  intro fuel rest hf hr
  obtain ⟨fuel, rfl⟩ : ∃ n, fuel = n + 1 := ⟨fuel - 1, by omega⟩
  have hread : read? fuel .disjunction (ts ++ u :: v :: .sign [')'] :: rest) =
      some (e, u :: v :: .sign [')'] :: rest) := by
    -- `AS` is no operator of any level, so the expression ends before it
    refine h.inside hf ?_ (Ends.of_isWord hu (fun m _ => by cases m <;> decide) _)
    simp only [List.length_append, List.length_cons, List.length_nil]
    omega
  simp [operand?_cast ht, hread, word?, hu, hv, mark?]

theorem atom (h : atom? ts = some (e, [])) : Found none ts e := by
  intro fuel rest hf hr
  obtain ⟨fuel, rfl⟩ : ∃ n, fuel = n + 1 := ⟨fuel - 1, by omega⟩
  exact operand?_atom h hr.no_arguments fuel

end Found

/-- Every expression of the grammar is found. -/
theorem Reads.found {l : Option Level} {ts : List Token} {e : Expr} (h : Reads l ts e) :
    Found l ts e := by
  induction h with
  | tighter _ ih => exact ih.tighter
  | binary hop _ _ ihleft ihright => exact .binary hop ihleft ihright
  | isNull ht hu _ ih =>
    exact ih.postfixed [_, _] (by simp) (follower_isNull ht hu) fun _ => Ends.is ht _
  | isNotNull ht hu hv _ ih =>
    exact ih.postfixed [_, _, _] (by simp) (follower_isNotNull ht hu hv) fun _ => Ends.is ht _
  | group _ ih => exact ih.group
  | call ht _ _ iha ihb => exact .call ht iha ihb
  | cast ht hu hv _ ih => exact .cast ht hu hv ih
  | atom h => exact .atom h

/-- **The reader is complete**: it finds every expression of the grammar. -/
theorem Reads.ofTokens? {ts : List Token} {e : Expr} (h : Reads (some .disjunction) ts e) :
    Expr.ofTokens? ts = some e := by
  have hfuel : cost (some .disjunction) ts < 8 * ts.length + 8 := by
    simp only [cost, Level.rank]
    omega
  have hread : read? (8 * ts.length + 8) .disjunction (ts ++ []) = some (e, []) :=
    h.found.readAt? hfuel (Ends.nil _)
  rw [List.append_nil] at hread
  simp [Expr.ofTokens?, hread]

/-- **A list of tokens has one reading at most.** -/
theorem Reads.unique {ts : List Token} {e f : Expr} (he : Reads (some .disjunction) ts e)
    (hf : Reads (some .disjunction) ts f) : e = f :=
  Option.some.inj (he.ofTokens?.symm.trans hf.ofTokens?)

end DocSelect.Expr
