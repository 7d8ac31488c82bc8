import DocSelect.Proofs.Lexing
import DocSelect.Proofs.Values
/-!
# The tokens of predicates

The text of a predicate with literals and the text with placeholders are one text with the values
written in two ways. Its tokens are found over the tree of the predicate, whatever the values are
written as, as long as each of them is a piece by itself.

* `Predicate.render` : the text with values written in any way;
* `Formula.tokens` : the tokens of a tree;
* `Formula.written` : **the tokens of a tree depend on how values are written only at the values**;
* `Formula.lexes` : **the text of a tree has the tokens of the tree**.
-/

namespace DocSelect

/-! ## Texts with values written in any way -/

namespace Predicate

/-- The characters of a piece. -/
def Fragment.chars (write : Scalar → List Char) : Fragment → List Char
  | .sql t => t.toList
  | .value v => write v

/-- The text with each value written in a given way. -/
def render (write : Scalar → List Char) (p : Predicate) : List Char :=
  p.fragments.flatMap (Fragment.chars write)

/-- The text with literals is one rendering. -/
theorem inlineChars_eq_render (p : Predicate) : p.inlineChars = p.render Literal.chars := by
  refine congrArg (p.fragments.flatMap ·) (funext fun f => ?_)
  cases f <;> rfl

/-- The text with placeholders is another, in which no value is seen. -/
theorem boundChars_eq_render (p : Predicate) : p.boundChars = p.render fun _ => ['?'] := by
  refine congrArg (p.fragments.flatMap ·) (funext fun f => ?_)
  cases f <;> rfl

section

variable (write : Scalar → List Char)

@[simp] theorem render_text (s : String) : (text s).render write = s.toList := by
  simp [render, text, Fragment.chars]

/-- A rendering does not see where pieces of text were joined. -/
@[simp] theorem render_append (p q : Predicate) :
    (p ++ q).render write = p.render write ++ q.render write := by
  obtain ⟨p⟩ := p
  obtain ⟨q⟩ := q
  simp only [render, fragments_append]
  -- two texts next to each other are joined to one
  fun_induction join p q <;> simp_all [Fragment.chars]

/-- A function of the document and a path, whatever the path is rendered as. -/
theorem render_extract (function path before after : String) :
    (extract function path before after).render write =
      before.toList ++ (function.toList ++ '(' :: (valueColumn.toList ++ ',' :: ' ' ::
        (write (.string path) ++ ')' :: after.toList))) := by
  simp [render, extract, Fragment.chars]

end

end Predicate

/-! ## Pieces in front of pieces -/

namespace Token

section

variable {Follows : List Char → Prop} {s : List Char} {ts : List Token}

theorem Lexes.behind_open (h : Lexes Follows s ts) :
    Lexes Follows ('(' :: s) (.sign ['('] :: ts) :=
  lexes_open.before h

theorem Lexes.behind_comma (h : Lexes Follows s ts) :
    Lexes Follows (',' :: s) (.sign [','] :: ts) :=
  lexes_comma.before h

/-- A blank before tokens is no token. -/
theorem Lexes.behind_blank (h : Lexes Follows s ts) : Lexes Follows (' ' :: s) ts :=
  lexes_blank.before h

/-- A word is put before what no word goes on with. -/
theorem Lexes.behind_word {w : List Char} {c : Char} (hw : isPlainWord w = true)
    (hc : isWordChar c = false) (h : Lexes Follows (c :: s) ts) :
    Lexes Follows (w ++ c :: s) (.word w :: ts) :=
  (lexes_word hw).append h fun _ _ d hd => by
    obtain rfl : c = d := by simpa using hd
    exact hc

end

/-- A placeholder is a piece by itself. -/
theorem lexes_placeholder : Lexes Closing ['?'] [.variable ['?']] :=
  .single (by decide) (by decide) fun rest hr => by
    have hend := hr.not_isDigit
    cases rest with
    | nil => rfl
    | cons c s => simp [read?, hend c (by simp)]

end Token

/-- The token of a comparison. -/
def Comparison.token (op : Comparison) : Token :=
  match op with
  | .like | .glob | .regexp => .word op.operator.toList
  | _ => .sign op.operator.toList

/-- The operator of a comparison is put before a blank. -/
theorem Token.Lexes.behind_operator {Follows : List Char → Prop} {s : List Char} {ts : List Token}
    (op : Comparison) (h : Lexes Follows (' ' :: s) ts) :
    Lexes Follows (op.operator.toList ++ ' ' :: s) (op.token :: ts) := by
  have hmark {c : Char} {m : List Char} (hb : isBlank c = false) (hz : c ≠ '\x00')
      (hread : ∀ s, read? (c :: m ++ ' ' :: s) = some (.sign (c :: m), ' ' :: s)) :
      Lexes Follows (c :: m ++ ' ' :: s) (.sign (c :: m) :: ts) := by
    have hmark : Lexes (fun rest => ∃ s, rest = ' ' :: s) (c :: m) [.sign (c :: m)] :=
      .single hb hz fun rest hr => by
        obtain ⟨s, rfl⟩ := hr
        exact hread s
    exact hmark.append h fun rest _ => ⟨s ++ rest, rfl⟩
  cases op with
  | eq | lt | lte | gt | gte | ne => exact hmark (by decide) (by decide) fun _ => rfl
  | like | glob | regexp => exact Lexes.behind_word (by decide) (by decide) h

/-! ## The tokens of a tree -/

namespace FieldCondition

/-- Tokens in parentheses. -/
def group (ts : List Token) : List Token := .sign ['('] :: (ts ++ [.sign [')']])

/-- A function of the document at a path. -/
def callTokens (write : Scalar → List Token) (f : JsonFunction) (path : String) : List Token :=
  .word f.name.toList :: .sign ['('] ::
    ([.word valueColumn.toList] ++ .sign [','] :: (write (.string path) ++ [.sign [')']]))

/-- A test whether a value is null, or is not. -/
def nullTokens (null : Bool) : List Token :=
  if null then [.word "IS".toList, .word "NULL".toList]
  else [.word "IS".toList, .word "NOT".toList, .word "NULL".toList]

/-- The tokens of the condition. -/
def tokens (write : Scalar → List Token) : FieldCondition → List Token
  | compare path op operand => group (callTokens write .extract path ++ op.token :: write operand)
  | present path expected => group (callTokens write .typeOf path ++ nullTokens !expected)
  | isNull path expected => group (callTokens write .extract path ++ nullTokens expected)

end FieldCondition

/-- Tokens with a word between them; another word stands for none. -/
def joinedTokens (word empty : String) : List (List Token) → List Token
  | [] => [.word empty.toList]
  | [ts] => ts
  | ts :: rest => ts ++ .word word.toList :: joinedTokens word empty rest

/-- The tokens of the tree. -/
def Formula.tokens (write : Scalar → List Token) : Formula → List Token
  | field c => c.tokens write
  | all parts => FieldCondition.group (joinedTokens "AND" "TRUE" (parts.map (tokens write)))
  | any parts => FieldCondition.group (joinedTokens "OR" "FALSE" (parts.map (tokens write)))
  | conjunction parts => joinedTokens "AND" "TRUE" (parts.map (tokens write))

/-! ## The tokens between the values -/

namespace Token

/-- A token that stands between the values: a word, or a mark that ends no statement. -/
def isFixed : Token → Bool
  | .word _ => true
  | .sign mark => mark != [';']
  | _ => false

theorem isInert_of_isFixed {t : Token} (h : t.isFixed = true) : t.isInert = true := by
  cases t with
  | word name => rfl
  | sign mark =>
    have hne : mark ≠ [';'] := by simpa [isFixed] using h
    unfold isInert
    split <;> simp_all
  | _ => cases h

/-- Two lists of tokens that differ only in how given values are written. -/
inductive Written (write write' : Scalar → List Token) :
    List Token → List Scalar → List Token → Prop
  /-- No tokens. -/
  | nil : Written write write' [] [] []
  /-- A token of both lists. -/
  | fixed {t : Token} {ts us : List Token} {vs : List Scalar} (ht : t.isFixed = true)
      (h : Written write write' ts vs us) : Written write write' (t :: ts) vs (t :: us)
  /-- A value, written in the two ways. -/
  | value (v : Scalar) {ts us : List Token} {vs : List Scalar} (h : Written write write' ts vs us) :
      Written write write' (write v ++ ts) (v :: vs) (write' v ++ us)

variable {write write' : Scalar → List Token}

/-- What is written in two ways is so piece by piece, and the values stand in order. -/
theorem Written.append {ts ts' us us' : List Token} {vs vs' : List Scalar}
    (h : Written write write' ts vs us) (h' : Written write write' ts' vs' us') :
    Written write write' (ts ++ ts') (vs ++ vs') (us ++ us') := by
  induction h with
  | nil => exact h'
  | fixed ht _ ih => exact .fixed ht ih
  | value v _ ih =>
    rw [List.append_assoc, List.append_assoc]
    exact .value v ih

/-- What holds of the tokens between the values and of those of each value holds of all tokens. -/
theorem Written.forall_mem {P : Token → Prop} {ts us : List Token} {vs : List Scalar}
    (h : Written write write' ts vs us) (hfixed : ∀ t, t.isFixed = true → P t)
    (hwrite : ∀ v ∈ vs, ∀ t ∈ write v, P t) : ∀ t ∈ ts, P t := by
  induction h with
  | nil => simp
  | fixed ht _ ih => exact List.forall_mem_cons.2 ⟨hfixed _ ht, ih hwrite⟩
  | value v _ ih =>
    rw [List.forall_mem_cons] at hwrite
    exact List.forall_mem_append.2 ⟨hwrite.1, ih hwrite.2⟩

end Token

section

open Token

variable {write write' : Scalar → List Token}

theorem FieldCondition.written_group {ts us : List Token} {vs : List Scalar}
    (h : Written write write' ts vs us) : Written write write' (group ts) vs (group us) := by
  have hgroup := Written.fixed (t := .sign ['(']) rfl
    (h.append (.fixed (t := .sign [')']) rfl .nil))
  rw [List.append_nil] at hgroup
  exact hgroup

/-- The tokens of a condition, with its values written in two ways. -/
theorem FieldCondition.written (c : FieldCondition) :
    Written write write' (c.tokens write) c.values (c.tokens write') := by
  have hcall (f : JsonFunction) (path : String) :
      Written write write' (callTokens write f path) [.string path] (callTokens write' f path) :=
    .fixed rfl (.fixed rfl (.fixed rfl (.fixed rfl (.value _ (.fixed rfl .nil)))))
  have hnull (null : Bool) : Written write write' (nullTokens null) [] (nullTokens null) := by
    cases null
    · exact .fixed rfl (.fixed rfl (.fixed rfl .nil))
    · exact .fixed rfl (.fixed rfl .nil)
  cases c with
  | compare path op operand =>
    have hop : op.token.isFixed = true := by cases op <;> rfl
    have hoperand : Written write write' (write operand ++ []) [operand] (write' operand ++ []) :=
      .value operand .nil
    rw [List.append_nil, List.append_nil] at hoperand
    exact written_group ((hcall .extract path).append (.fixed hop hoperand))
  | present path expected => exact written_group ((hcall .typeOf path).append (hnull _))
  | isNull path expected => exact written_group ((hcall .extract path).append (hnull _))

/-- The tokens of parts with a word between them. -/
theorem Formula.written_joined (word empty : String) {parts : List Formula}
    (h : ∀ p ∈ parts, Written write write' (p.tokens write) p.values (p.tokens write')) :
    Written write write' (joinedTokens word empty (parts.map (tokens write)))
      (parts.flatMap values) (joinedTokens word empty (parts.map (tokens write'))) := by
  refine parts_induction ?_ (fun p hp => ?_) (fun p q rest hp ih => ?_) parts h
  · exact .fixed rfl .nil
  · rw [List.flatMap_cons, List.flatMap_nil, List.append_nil]
    exact hp
  · -- the word stands between the tokens of the first part and those of the others
    exact hp.append (.fixed rfl ih)

/-- The tokens of a tree, with its values written in two ways. -/
theorem Formula.written (p : Formula) :
    Written write write' (p.tokens write) p.values (p.tokens write') := by
  induction p with
  | field c =>
    rw [tokens, tokens, values]
    exact c.written
  | all parts ih =>
    rw [tokens, tokens, values]
    exact FieldCondition.written_group (written_joined "AND" "TRUE" ih)
  | any parts ih =>
    rw [tokens, tokens, values]
    exact FieldCondition.written_group (written_joined "OR" "FALSE" ih)
  | conjunction parts ih =>
    rw [tokens, tokens, values]
    exact written_joined "AND" "TRUE" ih

end

/-! ## The text of a tree has its tokens -/

namespace FieldCondition

open Token

variable {chars : Scalar → List Char} {write : Scalar → List Token}

/-- The text of a function of the document at a path. -/
def callChars (chars : Scalar → List Char) (f : JsonFunction) (path : String) : List Char :=
  f.name.toList ++ '(' :: (valueColumn.toList ++ ',' :: ' ' :: (chars (.string path) ++ [')']))

/-- A function and its arguments, given that a path is closed by the parenthesis behind it. -/
theorem lexes_call (hwrite : ∀ v, Lexes Closing (chars v) (write v)) (f : JsonFunction)
    (path : String) : Lexes Anything (callChars chars f path) (callTokens write f path) := by
  have hname : isPlainWord f.name.toList = true := by cases f <;> decide
  have hclose : Lexes Anything [')'] [.sign [')']] := lexes_close
  exact ((((hwrite (.string path)).closed hclose (.inr rfl)).behind_blank.behind_comma.behind_word
    (by decide) (by decide)).behind_open.behind_word hname (by decide))

/-- The text of a test whether a value is null, or is not. -/
def nullChars (null : Bool) : List Char :=
  if null then " IS NULL".toList else " IS NOT NULL".toList

theorem lexes_null (null : Bool) {Follows : List Char → Prop} {s : List Char} {ts : List Token}
    (h : Lexes Follows (' ' :: s) ts) :
    Lexes Follows (nullChars null ++ ' ' :: s) (nullTokens null ++ ts) := by
  cases null
  · exact (((h.behind_word (w := "NULL".toList) (by decide) (by decide)).behind_blank.behind_word
      (w := "NOT".toList) (by decide) (by decide)).behind_blank.behind_word (w := "IS".toList)
        (by decide) (by decide)).behind_blank
  · exact ((h.behind_word (w := "NULL".toList) (by decide) (by decide)).behind_blank.behind_word
      (w := "IS".toList) (by decide) (by decide)).behind_blank

/-- A comparison of a field, from parenthesis to parenthesis. -/
theorem render_compare (path : String) (op : Comparison) (operand : Scalar) :
    (Predicate.compare path op operand).render chars =
      '(' :: ' ' :: (callChars chars .extract path ++ ' ' ::
        (op.operator.toList ++ ' ' :: (chars operand ++ [' ', ')']))) := by
  have hoperand : Predicate.render chars ⟨[.value operand, .sql " )"]⟩ =
      chars operand ++ [' ', ')'] := by
    simp [Predicate.render, Predicate.Fragment.chars]
  simp [Predicate.compare, Predicate.render_extract, hoperand, callChars, JsonFunction.name]

theorem render_present (path : String) (expected : Bool) :
    (Predicate.present path expected).render chars =
      '(' :: ' ' :: (callChars chars .typeOf path ++ (nullChars (!expected) ++ [' ', ')'])) := by
  cases expected <;>
    simp [Predicate.present, Predicate.render_extract, callChars, nullChars, JsonFunction.name]

theorem render_isNull (path : String) (expected : Bool) :
    (Predicate.isNull path expected).render chars =
      '(' :: ' ' :: (callChars chars .extract path ++ (nullChars expected ++ [' ', ')'])) := by
  cases expected <;>
    simp [Predicate.isNull, Predicate.render_extract, callChars, nullChars, JsonFunction.name]

/-- The text of a condition has the tokens of the condition. -/
theorem lexes (hwrite : ∀ v, Lexes Closing (chars v) (write v)) (c : FieldCondition) :
    Lexes Anything (c.toPredicate.render chars) (c.tokens write) := by
  have hend : Lexes Anything [' ', ')'] [.sign [')']] := lexes_blank.before lexes_close
  have hnull (f : JsonFunction) (path : String) (null : Bool) :
      Lexes Anything ('(' :: ' ' :: (callChars chars f path ++ (nullChars null ++ [' ', ')'])))
        (group (callTokens write f path ++ nullTokens null)) := by
    rw [group, List.append_assoc]
    exact ((lexes_call hwrite f path).before (lexes_null null hend)).behind_blank.behind_open
  cases c with
  | compare path op operand =>
    -- built from the end of the text: each piece is put before the ones that follow it
    have hoperand := (hwrite operand).closed hend (.inl rfl)
    have hoperator := Lexes.behind_operator op hoperand.behind_blank
    rw [toPredicate, render_compare, tokens, group, List.append_assoc]
    exact ((lexes_call hwrite .extract path).before
      hoperator.behind_blank).behind_blank.behind_open
  | present path expected =>
    rw [toPredicate, render_present]
    exact hnull .typeOf path !expected
  | isNull path expected =>
    rw [toPredicate, render_isNull]
    exact hnull .extract path expected

end FieldCondition

namespace Formula

open Token FieldCondition

variable {chars : Scalar → List Char} {write : Scalar → List Token}

/-- A group has a blank inside each of its parentheses. -/
theorem render_grouped (p : Predicate) :
    (Predicate.grouped p).render chars = '(' :: ' ' :: (p.render chars ++ [' ', ')']) := by
  simp [Predicate.grouped]

/-- Parts with a word between them. -/
theorem lexes_joined (word empty : String) (hword : isPlainWord word.toList = true)
    (hempty : isPlainWord empty.toList = true) {parts : List Formula}
    (h : ∀ p ∈ parts, Lexes Closing (p.toPredicate.render chars) (p.tokens write)) :
    Lexes Closing ((Predicate.joined word empty (parts.map toPredicate)).render chars)
      (joinedTokens word empty (parts.map (tokens write))) := by
  refine parts_induction ?_ (fun p hp => ?_) (fun p q rest hp ih => ?_) parts h
  · have hlexes := lexes_word hempty
    rw [List.map_nil, Predicate.joined, Predicate.render_text]
    exact ⟨fun hr => hlexes.scans hr.endsWord, hlexes.length_le⟩
  · exact hp
  · -- a blank ends the first part, and blanks stand around the word
    have hword' : (" " ++ word ++ " ").toList = ' ' :: (word.toList ++ [' ']) := by simp
    have hjoined := hp.closed
      (ih.behind_blank.behind_word hword (by decide)).behind_blank (.inl rfl)
    simp only [List.map_cons, Predicate.joined, Predicate.render_append, Predicate.render_text,
      joinedTokens, hword', List.append_assoc, List.cons_append, List.nil_append] at hjoined ⊢
    exact hjoined

/-- **The text of a tree has the tokens of the tree**, whatever the values are written as. -/
theorem lexes (hwrite : ∀ v, Lexes Closing (chars v) (write v)) (p : Formula) :
    Lexes Closing (p.toPredicate.render chars) (p.tokens write) := by
  have hend : Lexes Closing [' ', ')'] [.sign [')']] := (lexes_blank.before lexes_close).anything
  induction p with
  | field c =>
    rw [toPredicate, tokens]
    exact (c.lexes hwrite).anything
  | all parts ih =>
    have hparts := lexes_joined "AND" "TRUE" (by decide) (by decide) ih
    rw [toPredicate, Predicate.all, render_grouped, tokens]
    exact (hparts.closed hend (.inl rfl)).behind_blank.behind_open
  | any parts ih =>
    have hparts := lexes_joined "OR" "FALSE" (by decide) (by decide) ih
    rw [toPredicate, Predicate.any, render_grouped, tokens]
    exact (hparts.closed hend (.inl rfl)).behind_blank.behind_open
  | conjunction parts ih =>
    rw [toPredicate, Predicate.conjunction, tokens]
    exact lexes_joined "AND" "TRUE" (by decide) (by decide) ih

end Formula

end DocSelect
