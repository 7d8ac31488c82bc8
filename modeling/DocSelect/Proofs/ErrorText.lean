import DocSelect.Proofs.DistinctKeys
import DocSelect.Proofs.FloatText
import DocSelect.Proofs.SelectorReading
/-!
# The text of an error

A report that ends in a position is reported with that position. The error of a selector quotes a
part of the document at its end, so its text might be taken for one that ends in a position. It
never is, unless a repeated key is at fault: a document ends in a digit only if it is a number, and
the words before the document are no words of a position.

* `Json.endsOpen_chars` : the text of a document that is no number does not end in a digit;
* `Json.restate_eq_self` : **a text that does not end in a position is reported as it is**;
* `SelectorError.Quotes` : the text of the error ends with a document;
* `Selector.blames_of_ofJson` : **an error quotes a part of the document, or names a key that an
  object of it repeats**;
* `Selector.quotes_of_ofJson` : an error of a document that repeats no key quotes a part of it;
* `SelectorError.Quotes.restate_message` : **such an error is reported as it is**.
-/

namespace DocSelect

/-! ## The end of a document's text -/

/-- A character of the text of a number. -/
def isNumberChar (c : Char) : Bool := c.isDigit || ['-', '+', '.', 'e'].contains c

theorem all_isNumberChar_of_isDigit {ds : List Char} (h : ds.all Char.isDigit = true) :
    ds.all isNumberChar = true := by
  rw [List.all_eq_true] at h ⊢
  intro c hc
  rw [isNumberChar, h c hc]
  rfl

theorem all_isNumberChar_jsonText (x : Binary64) : x.jsonText.all isNumberChar = true := by
  have hsign : x.signText.all isNumberChar = true := by
    unfold Binary64.signText
    split <;> decide
  have hnat (n : ℕ) : (natDigits n).all isNumberChar = true :=
    all_isNumberChar_of_isDigit (all_isDigit_natDigits n)
  unfold Binary64.jsonText
  simp only
  split
  · rw [List.all_append, hsign]
    decide
  · generalize Decimal.shortest .toEven x = d
    split
    · -- digits around a point
      have hwhole := all_isNumberChar_of_isDigit d.pointed_digits.whole_all
      have hfraction := all_isNumberChar_of_isDigit d.pointed_digits.fraction_all
      rw [Decimal.wholeDigits] at hwhole
      rw [Decimal.fractionDigits] at hfraction
      simp only [List.all_append, List.all_cons, hsign, hwhole, hfraction]
      decide
    · -- a digit, a point with the others, and an exponent
      obtain ⟨c, ds, hd, -, -⟩ := natDigits_eq_cons d.coefficient
      have hdigits := hnat d.coefficient
      rw [hd, List.all_cons, Bool.and_eq_true] at hdigits
      have hmantissa : (if ds.isEmpty then [] else '.' :: ds).all isNumberChar = true := by
        split
        · rfl
        · rw [List.all_cons, hdigits.2]
          decide
      have hexponent : isNumberChar (if d.lead < 0 then '-' else '+') = true := by
        split <;> decide
      simp only [Decimal.scientific, hd, List.all_append, List.all_cons, hsign, hdigits.1,
        hmantissa, hexponent, hnat]
      decide

theorem Number.all_isNumberChar_text (n : Number) : n.text.all isNumberChar = true := by
  cases n with
  | whole w =>
    rw [text, intText]
    split
    · rw [List.all_cons, all_isNumberChar_of_isDigit (all_isDigit_natDigits _)]
      decide
    · exact all_isNumberChar_of_isDigit (all_isDigit_natDigits _)
  | float x => exact all_isNumberChar_jsonText x

namespace Json

/-- A text that ends in a character that is no digit. -/
def EndsOpen (cs : List Char) : Prop := ∃ before c, cs = before ++ [c] ∧ c.isDigit = false

theorem EndsOpen.behind {cs : List Char} (h : EndsOpen cs) (before : List Char) :
    EndsOpen (before ++ cs) := by
  obtain ⟨before', c, rfl, hc⟩ := h
  exact ⟨before ++ before', c, by rw [List.append_assoc], hc⟩

/-- What ends open has no digits at its end, so no position can be taken from it. -/
theorem EndsOpen.not_digits {before ds : List Char} (h : EndsOpen (before ++ ds)) (hne : ds ≠ [])
    (hds : ds.all Char.isDigit = true) : False := by
  obtain ⟨before', c, heq, hc⟩ := h
  have hlast : ds.getLast? = some c := by
    have hlast := congrArg List.getLast? heq
    rwa [List.getLast?_append_of_ne_nil _ hne, List.getLast?_concat] at hlast
  have hdigit := List.all_eq_true.1 hds c (List.mem_of_getLast? hlast)
  rw [hc] at hdigit
  cases hdigit

theorem endsOpen_charsItems (items : List Json) : EndsOpen (charsItems items) := by
  induction items with
  | nil => exact ⟨[], ']', rfl, by decide⟩
  | cons d rest ih =>
    rw [charsItems]
    exact (ih.behind d.chars).behind [',']

theorem endsOpen_charsEntries (entries : List (String × Json)) :
    EndsOpen (charsEntries entries) := by
  induction entries with
  | nil => exact ⟨[], '}', rfl, by decide⟩
  | cons e rest ih =>
    obtain ⟨key, d⟩ := e
    rw [charsEntries]
    exact (((ih.behind d.chars).behind [':']).behind (quote key)).behind [',']

/-- The text of a document that is no number does not end in a digit. -/
theorem endsOpen_chars {d : Json} (h : ∀ n, d ≠ .number n) : EndsOpen d.chars := by
  match d with
  | .null => exact ⟨['n', 'u', 'l'], 'l', rfl, by decide⟩
  | .bool true => exact ⟨['t', 'r', 'u'], 'e', rfl, by decide⟩
  | .bool false => exact ⟨['f', 'a', 'l', 's'], 'e', rfl, by decide⟩
  | .number n => exact (h n rfl).elim
  | .string s => exact ⟨'"' :: s.toList.flatMap escape, '"', rfl, by decide⟩
  | .array [] => exact ⟨['['], ']', rfl, by decide⟩
  | .array (d :: rest) => exact ((endsOpen_charsItems rest).behind d.chars).behind ['[']
  | .object [] => exact ⟨['{'], '}', rfl, by decide⟩
  | .object ((key, d) :: rest) =>
    exact ((((endsOpen_charsEntries rest).behind d.chars).behind [':']).behind
      (quote key)).behind ['{']

/-! ## Texts that end in a position -/

theorem eq_append_of_dropStart? {p s rest : List Char} (h : dropStart? p s = some rest) :
    s = p ++ rest := by
  induction p generalizing s with
  | nil => exact Option.some.inj h
  | cons a p ih =>
    cases s with
    | nil => cases h
    | cons b s =>
      rw [dropStart?] at h
      split at h
      · next hab => rw [ih h, hab, List.cons_append]
      · cases h

theorem eq_append_of_leadingNumber {s rest : List Char} {n : ℕ}
    (h : leadingNumber s = some (n, rest)) :
    ∃ ds, s = ds ++ rest ∧ ds ≠ [] ∧ ds.all Char.isDigit = true := by
  unfold leadingNumber at h
  simp only at h
  split at h
  · cases h
  · next hds =>
    split at h
    · obtain ⟨-, rfl⟩ := Prod.mk.inj (Option.some.inj h)
      refine ⟨s.takeWhile Char.isDigit, List.takeWhile_append_dropWhile.symm, ?_, ?_⟩
      · simpa using hds
      · exact List.all_takeWhile
    · cases h

/-- A position ends with a word and digits behind it. -/
theorem eq_append_of_positionText? {s : List Char} {p : Position} (h : positionText? s = some p) :
    ∃ before ds, s = before ++ " column ".toList ++ ds ∧ ds ≠ [] ∧ ds.all Char.isDigit = true := by
  unfold positionText? at h
  obtain ⟨s₁, h₁, h⟩ := Option.bind_eq_some_iff.1 h
  obtain ⟨⟨line, s₂⟩, h₂, h⟩ := Option.bind_eq_some_iff.1 h
  obtain ⟨s₃, h₃, h⟩ := Option.bind_eq_some_iff.1 h
  obtain ⟨⟨column, s₄⟩, h₄, h⟩ := Option.bind_eq_some_iff.1 h
  have hend : s₄ = [] := by
    by_contra hne
    simp [hne] at h
  obtain ⟨ds₂, hs₂, -, -⟩ := eq_append_of_leadingNumber h₂
  obtain ⟨ds₄, hs₄, hne, hds⟩ := eq_append_of_leadingNumber h₄
  refine ⟨" at line ".toList ++ ds₂, ds₄, ?_, hne, hds⟩
  rw [eq_append_of_dropStart? h₁, hs₂, eq_append_of_dropStart? h₃, hs₄, hend, List.append_nil]
  simp only [List.append_assoc]

theorem eq_append_of_splitPosition {s before : List Char} {p : Position}
    (h : splitPosition s = some (before, some p)) :
    ∃ rest, s = before ++ rest ∧ positionText? rest = some p := by
  induction s generalizing before with
  | nil => cases h
  | cons c s ih =>
    rw [splitPosition] at h
    split at h
    · next before' p' hs =>
      obtain ⟨rfl, rfl⟩ := Prod.mk.inj (Option.some.inj h)
      obtain ⟨rest, rfl, hrest⟩ := ih hs
      exact ⟨rest, rfl, hrest⟩
    · split at h
      · obtain ⟨rfl, hp⟩ := Prod.mk.inj (Option.some.inj h)
        exact ⟨c :: s, rfl, hp⟩
      · cases h

/-- **A text that does not end in a position is reported as it is.** -/
theorem restate_eq_self {reason : String}
    (h : ∀ before ds, ds ≠ [] → ds.all Char.isDigit = true →
      reason.toList ≠ before ++ " column ".toList ++ ds) : restate reason = reason := by
  unfold restate
  split
  · next before p hsplit =>
    obtain ⟨rest, hrest, hp⟩ := eq_append_of_splitPosition hsplit
    obtain ⟨before', ds, rfl, hne, hds⟩ := eq_append_of_positionText? hp
    refine (h (before ++ before') ds hne hds ?_).elim
    rw [hrest]
    simp only [List.append_assoc]
  · rfl

end Json

/-! ## Parts of a document -/

/-- A document stands somewhere in another one, or is the whole of it. -/
inductive Json.PartOf (part : Json) : Json → Prop
  /-- The whole document. -/
  | refl : PartOf part part
  /-- A part of an item. -/
  | item {d : Json} {items : List Json} (hmem : d ∈ items) (h : PartOf part d) :
    PartOf part (.array items)
  /-- A part of the value of an entry. -/
  | value {entry : String × Json} {entries : List (String × Json)} (hmem : entry ∈ entries)
    (h : PartOf part entry.2) : PartOf part (.object entries)

/-! ## Errors that quote a document -/

namespace SelectorError

/-- The error quotes the document, as the last part of its text. -/
inductive Quotes : SelectorError → Json → Prop
  /-- A root that is no object. -/
  | root (d : Json) : Quotes (.invalidSelectorRoot d.render) d
  /-- A group directly inside a group. -/
  | nested (d : Json) : Quotes (.nestedArrayNotAllowed d.render) d
  /-- An element that is no object. -/
  | element (d : Json) : Quotes (.invalidSelectorElement d.render) d
  /-- A group that is no array. -/
  | combinator (key : String) (d : Json) : Quotes (.expectedArray key d.render) d
  /-- An operand of the wrong type. -/
  | operand (key : String) (d : Json) : Quotes (.invalidOperand key d.render) d
  /-- A condition of the wrong shape. -/
  | condition (path : String) (d : Json) : Quotes (.invalidFieldCondition path d.render) d
  /-- An object with an unknown operator. -/
  | operator (op : String) (entries : List (String × Json)) :
    Quotes (.invalidOperator op (Json.object entries).render) (.object entries)

/-- The error quotes a part of the document, or it names a key and an object of the document has
some key twice. -/
def Blames (e : SelectorError) (d : Json) : Prop :=
  (∃ key, e = .duplicateKey key ∧ ¬ d.KeysDistinct) ∨ ∃ part, part.PartOf d ∧ e.Quotes part

theorem Blames.of_item {e : SelectorError} {d : Json} {items : List Json} (hmem : d ∈ items)
    (h : e.Blames d) : e.Blames (.array items) := by
  rcases h with ⟨key, rfl, hd⟩ | ⟨part, hpart, hquotes⟩
  · refine .inl ⟨key, rfl, fun hall => hd ?_⟩
    rw [Json.KeysDistinct] at hall
    exact hall d hmem
  · exact .inr ⟨part, .item hmem hpart, hquotes⟩

theorem Blames.of_value {e : SelectorError} {entry : String × Json}
    {entries : List (String × Json)} (hmem : entry ∈ entries) (h : e.Blames entry.2) :
    e.Blames (.object entries) := by
  rcases h with ⟨key, rfl, hd⟩ | ⟨part, hpart, hquotes⟩
  · refine .inl ⟨key, rfl, fun hall => hd ?_⟩
    rw [Json.KeysDistinct] at hall
    exact hall.2 entry hmem
  · exact .inr ⟨part, .value hmem hpart, hquotes⟩

/-- The words end in a character and a blank. -/
def EndsIn (c : Char) (words : String) : Prop := [c, ' '] <:+ words.toList

instance (c : Char) (words : String) : Decidable (EndsIn c words) :=
  inferInstanceAs (Decidable ([c, ' '] <:+ words.toList))

theorem EndsIn.behind {c : Char} {ending : String} (h : EndsIn c ending) (words : String) :
    EndsIn c (words ++ ending) := by
  rw [EndsIn, String.toList_append]
  exact List.IsSuffix.trans h (List.suffix_append _ _)

/-- Before the document stand words that end in a blank. Only those before an operator object end
like the word for a column. -/
theorem Quotes.exists_words {e : SelectorError} {d : Json} (h : e.Quotes d) :
    ∃ c words, e.message = words ++ d.render ∧ EndsIn c words ∧
      (c = 'n' → ∀ n, d ≠ .number n) := by
  have hne {c : Char} (hc : c ≠ 'n') (d : Json) : c = 'n' → ∀ n, d ≠ .number n :=
    fun h => (hc h).elim
  cases h with
  | root _ =>
    exact ⟨'t', "selector root must be an object, got ", rfl, by decide, hne (by decide) d⟩
  | nested _ =>
    exact ⟨':', "nested array not allowed in logical selector: ", rfl, by decide,
      hne (by decide) d⟩
  | element _ =>
    exact ⟨'t', "logical selector element must be an object, got ", rfl, by decide,
      hne (by decide) d⟩
  | combinator key _ =>
    have hwords : EndsIn 't' " expects an array of selectors, got " := by decide
    exact ⟨'t', _, rfl, hwords.behind key, hne (by decide) d⟩
  | operand key _ =>
    have hwords : EndsIn ':' ": " := by decide
    exact ⟨':', _, rfl, hwords.behind ("invalid operand for " ++ key), hne (by decide) d⟩
  | condition path _ =>
    have hwords : EndsIn ':' ": " := by decide
    exact ⟨':', _, rfl, hwords.behind ("invalid condition for field " ++ path),
      hne (by decide) d⟩
  | operator op entries =>
    have hwords : EndsIn 'n' " in " := by decide
    exact ⟨'n', _, rfl, hwords.behind ("invalid operator " ++ op), fun _ n hn => by cases hn⟩

/-- The last blank of a text tells what stands before it and what stands behind it. -/
theorem last_blank_unique {a a' b b' : List Char} (h : a ++ ' ' :: b = a' ++ ' ' :: b')
    (hb : ' ' ∉ b) (hb' : ' ' ∉ b') : a = a' ∧ b = b' := by
  rcases List.append_eq_append_iff.1 h with ⟨c, hc, hbc⟩ | ⟨c, hc, hbc⟩
  · cases c with
    | nil => simp_all
    | cons x c =>
      have hmem : ' ' ∈ b := by
        rw [(List.cons.inj hbc).2]
        simp
      exact absurd hmem hb
  · cases c with
    | nil => simp_all
    | cons x c =>
      have hmem : ' ' ∈ b' := by
        rw [(List.cons.inj hbc).2]
        simp
      exact absurd hmem hb'

/-- **An error that quotes a document is reported as it is.** -/
theorem Quotes.restate_message {e : SelectorError} {d : Json} (h : e.Quotes d) :
    Json.restate e.message = e.message := by
  obtain ⟨c, words, hmessage, ⟨before, hbefore⟩, hc⟩ := h.exists_words
  apply Json.restate_eq_self
  intro before' ds hne hds heq
  rw [hmessage, String.toList_append, Json.toList_render, ← hbefore] at heq
  by_cases hd : ∀ n, d ≠ .number n
  · -- the document ends in no digit, but a position does
    have hopen := (Json.endsOpen_chars hd).behind (before ++ [c, ' '])
    rw [heq] at hopen
    exact hopen.not_digits hne hds
  · -- the last blank stands before the number, and in a position behind the word for the column
    push Not at hd
    obtain ⟨n, rfl⟩ := hd
    have hblank : isNumberChar ' ' = false := by decide
    have htext : ' ' ∉ n.text := fun hmem =>
      ne_of_class (List.all_eq_true.1 n.all_isNumberChar_text _ hmem) ' ' hblank rfl
    have hdigits : ' ' ∉ ds := fun hmem =>
      ne_of_class (List.all_eq_true.1 hds _ hmem) ' ' (by decide) rfl
    have hcolumn : before' ++ " column ".toList ++ ds =
        (before' ++ " colum".toList ++ ['n']) ++ ' ' :: ds := by
      simp
    have hquoted : before ++ [c, ' '] ++ (Json.number n).chars =
        (before ++ [c]) ++ ' ' :: n.text := by
      simp [Json.chars]
    rw [hcolumn, hquoted] at heq
    have hword := (last_blank_unique heq htext hdigits).1
    have hn : c = 'n' := by
      have hlast := congrArg List.getLast? hword
      simpa using hlast
    exact hc hn n rfl

end SelectorError

namespace Selector

/-- An error of entries names a key that stands twice, or it is an error of one of them. -/
theorem exists_clause_eq_error {seen : List String} {entries : List (String × Json)}
    {e : SelectorError} (h : clauses seen entries = .error e) :
    (∃ key, e = .duplicateKey key ∧
        (key ∈ seen ∧ key ∈ entries.map Prod.fst ∨ ¬ (entries.map Prod.fst).Nodup)) ∨
      ∃ entry ∈ entries, clause entry.1 entry.2 = .error e := by
  induction entries generalizing seen with
  | nil => cases h
  | cons entry rest ih =>
    obtain ⟨key, d⟩ := entry
    rw [List.map_cons, List.nodup_cons]
    rw [clauses] at h
    split at h
    · next hseen =>
      cases h
      exact .inl ⟨key, rfl, .inl ⟨hseen, List.mem_cons_self⟩⟩
    · rcases bind_eq_error.1 h with h | ⟨c, -, h⟩
      · exact .inr ⟨(key, d), List.mem_cons_self, h⟩
      · rcases bind_eq_error.1 h with h | ⟨cs, -, h⟩
        · rcases ih h with ⟨k, rfl, hk⟩ | ⟨entry, hentry, he⟩
          · refine .inl ⟨k, rfl, ?_⟩
            rcases hk with ⟨hk, hrest⟩ | hrest
            · -- the key is that of this entry, or was there before
              rcases List.mem_cons.1 hk with rfl | hk
              · exact .inr fun hnodup => hnodup.1 hrest
              · exact .inl ⟨hk, List.mem_cons_of_mem _ hrest⟩
            · exact .inr fun hnodup => hrest hnodup.2
          · exact .inr ⟨entry, List.mem_cons_of_mem _ hentry, he⟩
        · cases h

/-- An error of a group is an error of one of its elements. -/
theorem exists_element_eq_error {items : List Json} {e : SelectorError}
    (h : elements items = .error e) : ∃ d ∈ items, element d = .error e := by
  induction items with
  | nil => cases h
  | cons d rest ih =>
    rw [elements] at h
    rcases bind_eq_error.1 h with h | ⟨s, -, h⟩
    · exact ⟨d, List.mem_cons_self, h⟩
    · rcases bind_eq_error.1 h with h | ⟨ss, -, h⟩
      · obtain ⟨d', hd', he⟩ := ih h
        exact ⟨d', List.mem_cons_of_mem _ hd', he⟩
      · cases h

/-- An error of an entry that is no group quotes a part of its value. -/
theorem quotes_of_leafClause {key : String} {d : Json} {e : SelectorError}
    (h : leafClause key d = .error e) : ∃ part, part.PartOf d ∧ e.Quotes part := by
  unfold leafClause at h
  split at h
  · next directive _ =>
    unfold directiveClause at h
    split at h
    · cases h
    · cases h
      exact ⟨d, .refl, .operand directive.key d⟩
  · unfold fieldClause at h
    split at h
    · cases h
    · split at h
      · next entries _ =>
        unfold fieldTest at h
        split at h
        · next op operand _ =>
          -- the operand is the value of the only entry
          have hoperand : operand.PartOf (.object [(op, operand)]) :=
            .value List.mem_cons_self .refl
          split at h
          · split at h
            · cases h
            · cases h
            · cases h
              exact ⟨operand, hoperand, .operand op operand⟩
          · split at h
            · split at h
              · cases h
              · cases h
                exact ⟨operand, hoperand, .operand op operand⟩
            · cases h
              exact ⟨_, .refl, .operator op [(op, operand)]⟩
        · cases h
          exact ⟨_, .refl, .condition key (.object entries)⟩
      · cases h
        exact ⟨d, .refl, .condition key d⟩

/-- An error of an entry that is no array quotes a part of its value. -/
theorem quotes_of_scalarClause {key : String} {d : Json} {e : SelectorError}
    (hd : ∀ items, d ≠ .array items) (h : clause key d = .error e) :
    ∃ part, part.PartOf d ∧ e.Quotes part := by
  unfold clause at h
  split at h
  · next items => exact (hd items rfl).elim
  · split at h
    · cases h
      exact ⟨d, .refl, .combinator key d⟩
    · exact quotes_of_leafClause h

/-- An error of a document blames it, where an entry is read and where an element is read. -/
theorem blames_of_error (d : Json) :
    (∀ key e, clause key d = .error e → e.Blames d) ∧ ∀ e, element d = .error e → e.Blames d := by
  -- by induction on the document: an array is read as an entry, an object as an element
  induction d with
  | array items ih =>
    have hitems {e : SelectorError} (h : elements items = .error e) : e.Blames (.array items) := by
      obtain ⟨d, hmem, he⟩ := exists_element_eq_error h
      exact ((ih d hmem).2 e he).of_item hmem
    have hgroup {f : List (List Clause) → Except SelectorError Clause} {e : SelectorError}
        (hf : ∀ ss, ∃ c, f ss = .ok c) (h : elements items >>= f = .error e) :
        e.Blames (.array items) := by
      rcases bind_eq_error.1 h with h | ⟨ss, -, h⟩
      · exact hitems h
      · obtain ⟨c, hc⟩ := hf ss
        rw [hc] at h
        cases h
    constructor
    · intro key e h
      unfold clause at h
      split at h
      · exact hgroup (fun ss => ⟨.all ss, rfl⟩) h
      · split at h
        · exact hgroup (fun ss => ⟨.any ss, rfl⟩) h
        · exact .inr (quotes_of_leafClause h)
    · intro e h
      cases h
      exact .inr ⟨_, .refl, .nested (.array items)⟩
  | object entries ih =>
    refine ⟨fun key e h => .inr (quotes_of_scalarClause (by simp) h), ?_⟩
    intro e h
    rcases exists_clause_eq_error h with ⟨key, rfl, hkey⟩ | ⟨entry, hmem, he⟩
    · refine .inl ⟨key, rfl, fun hd => ?_⟩
      rw [Json.KeysDistinct] at hd
      rcases hkey with ⟨hseen, -⟩ | hnodup
      · cases hseen
      · exact hnodup hd.1
    · exact ((ih entry hmem).1 entry.1 e he).of_value hmem
  | _ =>
    refine ⟨fun key e h => .inr (quotes_of_scalarClause (by simp) h), ?_⟩
    intro e h
    cases h
    exact .inr ⟨_, .refl, .element _⟩

/-- **An error quotes a part of the document, or names a key that an object of it repeats.** -/
theorem blames_of_ofJson {d : Json} {e : SelectorError} (h : ofJson d = .error e) :
    e.Blames d := by
  cases d with
  | object entries => exact (blames_of_error (.object entries)).2 e h
  | _ =>
    cases h
    exact .inr ⟨_, .refl, .root _⟩

/-- **An error of a document that repeats no key quotes a part of it.** -/
theorem quotes_of_ofJson {d : Json} (hd : d.KeysDistinct) {e : SelectorError}
    (h : ofJson d = .error e) : ∃ d', e.Quotes d' := by
  rcases blames_of_ofJson h with ⟨-, -, hrepeats⟩ | ⟨part, -, hquotes⟩
  · exact (hrepeats hd).elim
  · exact ⟨part, hquotes⟩

end Selector

end DocSelect
