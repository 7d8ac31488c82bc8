import DocSelect.Proofs.JsonGrammar
import DocSelect.Stored.Reader
/-!
# JSON in the strict sense

The engine has a reader of its own for JSON text, which in its strict dialect takes JSON and nothing
else. It takes all values of the grammar, up to where they cannot go on, and so it takes every text
from which the other reader makes a document.

* `JsonText.Closes` : what may stand behind a value;
* `JsonText.Leaf.strict` : strings, numbers and constants;
* `JsonText.Members.parse` : members with commas between them, one step for each;
* `JsonText.Value.strict` : **the strict reader takes all values of the grammar**;
* `isValidJson_of_readCollapsed` : **a text that is read as a document is JSON in the strict
  sense**.
-/

namespace DocSelect

open Json.Read (skipBlank isBlank)

namespace JsonText

/-! ## The strict reader of the engine -/

/-- What may stand behind a value: nothing, a blank or a mark. -/
def Closes (s : List Char) : Prop := ∀ c ∈ s.head?, isBlank c = true ∨ c ∈ [',', ']', '}']

/-- Behind blanks a mark is still a mark. -/
theorem closes_of_skipBlank {s t : List Char} {c : Char} (hs : skipBlank s = c :: t)
    (hc : c ∈ [',', ']', '}']) : Closes s := by
  intro d hd
  cases s with
  | nil => cases hd
  | cons d' s =>
    cases hd
    by_cases hblank : isBlank d = true
    · exact .inl hblank
    · rw [skipBlank, List.dropWhile_cons_of_neg hblank] at hs
      cases hs
      exact .inr hc

theorem closes_of_skipBlank_nil {s : List Char} (hs : skipBlank s = []) : Closes s := by
  intro d hd
  cases s with
  | nil => cases hd
  | cons d' s =>
    cases hd
    exact .inl (List.dropWhile_eq_nil_iff.1 hs d List.mem_cons_self)

/-- A value cannot go on there. -/
theorem Closes.head {s : List Char} (h : Closes s) {c : Char} (hc : c ∈ s.head?) :
    c.isAlphanum = false ∧ c ≠ '.' := by
  rcases h c hc with hblank | hmark
  · simp only [isBlank, Bool.or_eq_true, beq_iff_eq] at hblank
    rcases hblank with ((rfl | rfl) | rfl) | rfl <;> decide
  · simp only [List.mem_cons, List.not_mem_nil, or_false] at hmark
    rcases hmark with rfl | rfl | rfl <;> decide

section

open Stored

theorem exists_stringFrom?_escape {s t rest spelled : List Char} {kind : Escapes} {fuel : ℕ}
    (hspelled : escape? .strict s = some (spelled, kind, t))
    (h : ∃ x, stringFrom? .strict '"' fuel t = some (x, rest)) :
    ∃ x, stringFrom? .strict '"' (fuel + 1) ('\\' :: s) = some (x, rest) := by
  obtain ⟨x, hx⟩ := h
  refine ⟨⟨'\\' :: spelled ++ x.chars, Escapes.max kind x.escapes⟩, ?_⟩
  rw [stringFrom?, if_neg (by decide), if_pos rfl, hspelled]
  show (stringFrom? .strict '"' fuel t).bind _ = _
  rw [hx]
  rfl

/-- The engine takes the rest of a string; there are no more steps than characters. -/
theorem Chars.strict {s rest : List Char} (h : Chars s rest) {fuel : ℕ} (hfuel : s.length < fuel) :
    ∃ x, stringFrom? .strict '"' fuel s = some (x, rest) := by
  induction h generalizing fuel with
  | close rest =>
    obtain ⟨fuel, rfl⟩ : ∃ k, fuel = k + 1 := ⟨fuel - 1, by omega⟩
    exact ⟨_, by rw [stringFrom?, if_pos rfl]⟩
  | @char c s rest hquote hbackslash hc _ ih =>
    obtain ⟨fuel, rfl⟩ : ∃ k, fuel = k + 1 := ⟨fuel - 1, by omega⟩
    rw [List.length_cons] at hfuel
    obtain ⟨x, hx⟩ := @ih fuel (by omega)
    refine ⟨⟨c :: x.chars, x.escapes⟩, ?_⟩
    rw [stringFrom?, if_neg hquote, if_neg hbackslash]
    simp [hc, hquote, hx]
  | @letter c s rest hc _ ih =>
    obtain ⟨fuel, rfl⟩ : ∃ k, fuel = k + 1 := ⟨fuel - 1, by omega⟩
    rw [List.length_cons, List.length_cons] at hfuel
    have hspelled : escape? .strict (c :: s) = some ([c], .json, s) := by
      unfold escape?
      exact if_pos hc
    exact exists_stringFrom?_escape hspelled (@ih fuel (by omega))
  | @unicode a b c d s rest hdigits _ ih =>
    obtain ⟨fuel, rfl⟩ : ∃ k, fuel = k + 1 := ⟨fuel - 1, by omega⟩
    simp only [List.length_cons] at hfuel
    have hfour : (fourHex? (a :: b :: c :: d :: s)).isSome = true := by
      rw [fourHex?, if_pos hdigits]
      rfl
    have hspelled : escape? .strict ('u' :: a :: b :: c :: d :: s) =
        some (['u', a, b, c, d], .json, s) := by
      unfold escape?
      exact (if_neg (by decide)).trans (if_pos ⟨rfl, hfour⟩)
    exact exists_stringFrom?_escape hspelled (@ih fuel (by omega))

/-- The strict reader takes the digits of an exponent behind either sign. -/
theorem Digits.strict {s signed rest : List Char} (h : Digits s rest)
    (hsign : signed = s ∨ signed = '+' :: s ∨ signed = '-' :: s) :
    ∃ ds, exponent? signed = some (ds, rest) := by
  have hds := h.nonempty
  rcases hsign with rfl | rfl | rfl
  · unfold exponent?
    split
    next sign t ht =>
    have ht : t = signed := by
      split at ht
      · simp at hds
      · simp at hds
      · cases ht
        rfl
    simp [ht, hds, h.rest_eq]
  · simp [exponent?, hds, h.rest_eq]
  · simp [exponent?, hds, h.rest_eq]

/-- A number without its sign, up to where it cannot go on. -/
theorem Unsigned.decimal {s rest : List Char} (h : Unsigned s rest) (hrest : Closes rest) :
    ∃ text float, decimal? .strict s = some (text, float, rest) := by
  obtain ⟨t, u, hwhole, hfraction, hexponent⟩ := h
  have hdigits := hwhole.nonempty
  have hzero := hwhole.noZero
  have hends {c : Char} (hc : c ∈ rest.head?) : c ≠ '.' ∧ c ≠ 'e' ∧ c ≠ 'E' := by
    obtain ⟨halnum, hdot⟩ := hrest.head hc
    refine ⟨hdot, ?_, ?_⟩ <;>
      · rintro rfl
        exact absurd halnum (by decide)
  unfold decimal?
  rw [← hwhole.rest_eq]
  cases hfraction with
  | none =>
    cases hexponent with
    | none =>
      cases rest with
      | nil => simp [hdigits, hzero]
      | cons c rest =>
        obtain ⟨hdot, he, hE⟩ := hends rfl
        simp [hdigits, hzero, hdot, he, hE]
    | some hmark hsign hexponent =>
      obtain ⟨ds, hds⟩ := hexponent.strict hsign
      cases rest with
      | nil => rcases hmark with rfl | rfl <;> simp [hdigits, hzero, hds]
      | cons c rest =>
        obtain ⟨hdot, he, hE⟩ := hends rfl
        rcases hmark with rfl | rfl <;> simp [hdigits, hzero, hds, hdot, he, hE]
  | some hfraction =>
    have hpoint := hfraction.nonempty
    cases hexponent with
    | none =>
      cases rest with
      | nil => simp [hdigits, hzero, hpoint, ← hfraction.rest_eq]
      | cons c rest =>
        obtain ⟨hdot, he, hE⟩ := hends rfl
        simp [hdigits, hzero, hpoint, ← hfraction.rest_eq, hdot, he, hE]
    | some hmark hsign hexponent =>
      obtain ⟨ds, hds⟩ := hexponent.strict hsign
      cases rest with
      | nil =>
        rcases hmark with rfl | rfl <;> simp [hdigits, hzero, hpoint, ← hfraction.rest_eq, hds]
      | cons c rest =>
        obtain ⟨hdot, he, hE⟩ := hends rfl
        rcases hmark with rfl | rfl <;>
          simp [hdigits, hzero, hpoint, ← hfraction.rest_eq, hds, hdot, he, hE]

theorem Unsigned.strict {s rest : List Char} (h : Unsigned s rest) (hrest : Closes rest)
    (negative : Bool) : ∃ x, unsigned? .strict negative s = some (x, rest) := by
  obtain ⟨text, float, hdecimal⟩ := h.decimal hrest
  unfold unsigned?
  simp only [hdecimal, reduceCtorEq, false_and, if_false]
  split
  · exact ⟨_, rfl⟩
  · exact ⟨_, rfl⟩

theorem Unsigned.head {s rest : List Char} (h : Unsigned s rest) :
    ∃ c t, s = c :: t ∧ c.isDigit = true := by
  obtain ⟨t, u, hwhole, -, -⟩ := h
  have hdigits := hwhole.nonempty
  cases s with
  | nil => cases hdigits
  | cons c s =>
    refine ⟨c, s, rfl, ?_⟩
    by_contra hc
    rw [List.takeWhile_cons_of_neg hc] at hdigits
    cases hdigits

theorem constant?_append {w rest : List Char} (hrest : Closes rest) :
    constant? w (w ++ rest) = some rest := by
  rw [constant?, List.take_left, if_pos rfl, List.drop_left]
  cases rest with
  | nil => rfl
  | cons c rest => simp [(hrest.head rfl).1]

theorem leaf?_of_word {w : String} (hw : w ∈ ["true", "false", "null"]) {rest : List Char}
    (hrest : Closes rest) : ∃ x, leaf? .strict (w.toList ++ rest) = some (x, rest) := by
  simp only [List.mem_cons, List.not_mem_nil, or_false] at hw
  rcases hw with rfl | rfl | rfl
  · have htrue : constant? ['t', 'r', 'u', 'e'] ('t' :: 'r' :: 'u' :: 'e' :: rest) = some rest :=
      constant?_append hrest
    exact ⟨.bool true, by simp [leaf?, htrue]⟩
  · have htrue : constant? ['t', 'r', 'u', 'e'] ('f' :: 'a' :: 'l' :: 's' :: 'e' :: rest) = none :=
      if_neg (by simp)
    have hfalse : constant? ['f', 'a', 'l', 's', 'e'] ('f' :: 'a' :: 'l' :: 's' :: 'e' :: rest) =
        some rest := constant?_append hrest
    exact ⟨.bool false, by simp [leaf?, htrue, hfalse]⟩
  · have htrue : constant? ['t', 'r', 'u', 'e'] ('n' :: 'u' :: 'l' :: 'l' :: rest) = none :=
      if_neg (by simp)
    have hfalse : constant? ['f', 'a', 'l', 's', 'e'] ('n' :: 'u' :: 'l' :: 'l' :: rest) = none :=
      if_neg (by simp)
    have hnull : constant? ['n', 'u', 'l', 'l'] ('n' :: 'u' :: 'l' :: 'l' :: rest) = some rest :=
      constant?_append hrest
    exact ⟨.null, by simp [leaf?, htrue, hfalse, hnull]⟩

/-- The engine takes a leaf, up to where it cannot go on. -/
theorem Leaf.strict {s rest : List Char} (h : Leaf (skipBlank s) rest) (hrest : Closes rest)
    (depth : ℕ) : ∃ x, value? .strict depth s = some (x, rest) := by
  have hskip : skip .strict s = skipBlank s := rfl
  -- a number or a constant starts with none of the marks of the other values
  have hleaf {c : Char} {t : List Char} (hs : skipBlank s = c :: t)
      (hc : c ∉ ['"', '\'', '[', '{']) (h : ∃ x, leaf? .strict (c :: t) = some (x, rest)) :
      ∃ x, value? .strict depth s = some (x, rest) := by
    simp only [List.mem_cons, List.not_mem_nil, or_false, not_or] at hc
    rw [value?.eq_def, hskip, hs]
    simpa [hc] using h
  generalize hs : skipBlank s = u at h
  cases h with
  | @string u _ h =>
    obtain ⟨x, hx⟩ := h.strict (Nat.lt_succ_self u.length)
    refine ⟨.string x, ?_⟩
    rw [value?.eq_def, hskip, hs]
    simp [string?, hx]
  | positive h =>
    obtain ⟨c, t, rfl, hc⟩ := h.head
    refine hleaf hs ?_ ?_
    · rintro hmem
      simp only [List.mem_cons, List.not_mem_nil, or_false] at hmem
      rcases hmem with rfl | rfl | rfl | rfl <;> exact absurd hc (by decide)
    · rw [leaf?, if_pos hc]
      exact h.strict hrest false
  | negative h =>
    refine hleaf hs (by decide) ?_
    rw [leaf?, if_neg (by decide), if_pos rfl]
    exact h.strict hrest true
  | word hw rest =>
    have hword := leaf?_of_word hw hrest
    simp only [List.mem_cons, List.not_mem_nil, or_false] at hw
    rcases hw with rfl | rfl | rfl <;> exact hleaf hs (by decide) hword

section

variable {Item : List Char → List Char → Prop} {close : Char}
  (Parse : Bool → ℕ → List Char → List Char → Prop)
  (htakes : ∀ {s rest}, Item s rest → Takes s rest) (hclose : close ∈ [']', '}'])
  (hstep : ∀ {first fuel s u v rest c}, skipBlank s = c :: u → c ≠ close → Item (c :: u) v →
    Closes v → (skipBlank v = close :: rest ∨
      ∃ w, skipBlank v = ',' :: w ∧ Parse false fuel w rest) → Parse first (fuel + 1) s rest)

include hclose in
theorem More.closes {s rest : List Char} (h : More Item close s rest) : Closes s := by
  cases h with
  | close hs =>
    refine closes_of_skipBlank hs ?_
    simp only [List.mem_cons, List.not_mem_nil, or_false] at hclose ⊢
    exact .inr hclose
  | item hs => exact closes_of_skipBlank hs (by simp)

include htakes hclose hstep in
/-- The reader of members that takes one step for each of them reaches the end behind an item. -/
theorem More.parse {s rest : List Char} (h : More Item close s rest) :
    skipBlank s = close :: rest ∨
      ∃ t, skipBlank s = ',' :: t ∧ ∀ fuel, t.length < fuel → Parse false fuel t rest := by
  induction h with
  | close hs => exact .inl hs
  | @item s t u v rest c hs ht hc hitem hmore ih =>
    refine .inr ⟨t, hs, fun fuel hfuel => ?_⟩
    obtain ⟨fuel, rfl⟩ : ∃ k, fuel = k + 1 := ⟨fuel - 1, by omega⟩
    refine hstep ht hc hitem (hmore.closes hclose) (ih.imp_right ?_)
    rintro ⟨w, hw, hparse⟩
    -- an item and a comma are behind it, so less is left
    have hitems := (htakes hitem).length_le
    have hblanks := (takes_skipBlank ht).length_le
    have hcomma := (takes_skipBlank hw).length_le
    rw [List.length_cons] at hcomma
    exact ⟨w, hw, hparse fuel (by omega)⟩

include htakes hclose hstep in
/-- The reader of members reaches the end. -/
theorem Members.parse (hempty : ∀ {fuel s rest}, skipBlank s = close :: rest →
      Parse true (fuel + 1) s rest) {s rest : List Char} (h : Members Item close s rest) {fuel : ℕ}
    (hfuel : s.length < fuel) : Parse true fuel s rest := by
  obtain ⟨fuel, rfl⟩ : ∃ k, fuel = k + 1 := ⟨fuel - 1, by omega⟩
  cases h with
  | empty hs => exact hempty hs
  | items hs hc hitem hmore =>
    refine hstep hs hc hitem (hmore.closes hclose)
      ((hmore.parse Parse htakes hclose hstep).imp_right ?_)
    rintro ⟨w, hw, hparse⟩
    have hitems := (htakes hitem).length_le
    have hblanks := (takes_skipBlank hs).length_le
    have hcomma := (takes_skipBlank hw).length_le
    rw [List.length_cons] at hcomma
    exact ⟨w, hw, hparse fuel (by omega)⟩

end

section

variable {Item : List Char → List Char → Prop} {value : List Char → Option (Stored × List Char)}
  (htakes : ∀ {s rest}, Item s rest → Takes s rest)
  (hvalue : ∀ {s rest}, Item s rest → Closes rest → ∃ x, value s = some (x, rest))

include htakes hvalue

/-- The engine takes the items of an array. -/
theorem Members.items? {s rest : List Char} (h : Members Item ']' s rest) :
    ∃ xs, Stored.items? .strict value true (s.length + 1) s = some (xs, rest) := by
  have hskip (s : List Char) : skip .strict s = skipBlank s := rfl
  refine h.parse (fun first fuel s rest =>
    ∃ xs, Stored.items? .strict value first fuel s = some (xs, rest)) htakes (by simp) ?_ ?_
    (Nat.lt_succ_self _)
  · rintro first fuel s u v rest c hs hc hitem hv (hend | ⟨w, hw, xs, hxs⟩)
    · obtain ⟨x, hx⟩ := hvalue hitem hv
      exact ⟨[x], by simp [Stored.items?, hskip, hs, hc, hx, hend]⟩
    · obtain ⟨x, hx⟩ := hvalue hitem hv
      exact ⟨x :: xs, by simp [Stored.items?, hskip, hs, hc, hx, hw, hxs]⟩
  · intro fuel s rest hs
    exact ⟨[], by simp [Stored.items?, hskip, hs]⟩

/-- The engine takes the entries of an object. -/
theorem Members.entries? {s rest : List Char} (h : Members (Entry Item) '}' s rest) :
    ∃ xs, Stored.entries? .strict value true (s.length + 1) s = some (xs, rest) := by
  have hskip (s : List Char) : skip .strict s = skipBlank s := rfl
  refine h.parse (fun first fuel s rest =>
    ∃ xs, Stored.entries? .strict value first fuel s = some (xs, rest)) (Entry.takes htakes)
    (by simp) ?_ ?_ (Nat.lt_succ_self _)
  · intro first fuel s u v rest c hs hc hentry hv hnext
    cases hentry with
    | @mk s t w _ hkey hcolon hitem =>
      obtain ⟨k, hk⟩ := hkey.strict (Nat.lt_succ_self _)
      obtain ⟨x, hx⟩ := hvalue hitem hv
      rcases hnext with hend | ⟨w, hw, xs, hxs⟩
      · exact ⟨[(k, x)], by simp [Stored.entries?, hskip, hs, key?, string?, hk, hcolon, hx, hend]⟩
      · exact ⟨(k, x) :: xs,
          by simp [Stored.entries?, hskip, hs, key?, string?, hk, hcolon, hx, hw, hxs]⟩
  · intro fuel s rest hs
    exact ⟨[], by simp [Stored.entries?, hskip, hs]⟩

end

/-- **The strict reader of the engine takes all values of the grammar**, if they do not nest deeper
than it reads. -/
theorem Value.strict {depth limit : ℕ} (hdepth : depth ≤ limit) {s rest : List Char}
    (h : Value depth s rest) (hrest : Closes rest) :
    ∃ x, value? .strict limit s = some (x, rest) := by
  have hskip (s : List Char) : skip .strict s = skipBlank s := rfl
  induction depth generalizing limit s rest with
  | zero => exact Leaf.strict h hrest limit
  | succ depth ih =>
    obtain ⟨limit, rfl⟩ : ∃ k, limit = k + 1 := ⟨limit - 1, by omega⟩
    have hitem {s rest : List Char} (h : Value depth s rest) (hrest : Closes rest) :=
      ih (Nat.le_of_succ_le_succ hdepth) h hrest
    rcases h with h | ⟨t, hs, h⟩ | ⟨t, hs, h⟩
    · exact h.strict hrest _
    · obtain ⟨xs, hxs⟩ := h.items? Value.takes hitem
      exact ⟨.array xs, by simp [value?, hskip, hs, hxs]⟩
    · obtain ⟨xs, hxs⟩ := h.entries? Value.takes hitem
      exact ⟨.object xs, by simp [value?, hskip, hs, hxs]⟩

end

end JsonText

theorem skipBlank_of_finish {s : List Char} (h : Json.Read.finish s = .ok ()) :
    skipBlank s = [] := by
  unfold Json.Read.finish at h
  split at h
  · assumption
  · cases h

/-- **A text that is read as a document is JSON in the strict sense.** -/
theorem isValidJson_of_readCollapsed {text : String} {d : Json}
    (h : Json.readCollapsed text = .ok d) : isValidJson text.toList = true := by
  obtain ⟨x, hread, -⟩ : ∃ x, Json.read text = .ok x ∧ x.collapse = d := by
    rw [Json.readCollapsed] at h
    cases hread : Json.read text with
    | error e =>
      rw [hread] at h
      cases h
    | ok x =>
      rw [hread] at h
      exact ⟨x, rfl, Except.ok.inj h⟩
  obtain ⟨⟨y, rest⟩, hy, h⟩ := bind_eq_ok.1 hread
  obtain ⟨⟨⟩, hfinish, -⟩ := bind_eq_ok.1 h
  have hblank := skipBlank_of_finish hfinish
  have hvalue := JsonText.value_of_read hy
  have hdepth : Json.maxDepth ≤ Stored.maxDepth := by decide
  obtain ⟨z, hz⟩ := hvalue.strict hdepth (JsonText.closes_of_skipBlank_nil hblank)
  -- neither the value nor the blanks behind it have a zero character
  have hzero : '\x00' ∉ text.toList := by
    obtain ⟨part, htext, hpart⟩ := hvalue.takes.trans (JsonText.takes_skipBlank hblank)
    rwa [htext, List.append_nil]
  have hall : text.toList.takeWhile (· != '\x00') = text.toList := by
    rw [List.takeWhile_eq_self_iff]
    rintro c hc
    rw [bne_iff_ne]
    rintro rfl
    exact hzero hc
  have hskip : Stored.skip .strict rest = [] := hblank
  rw [isValidJson, Stored.readAs?, hall, hz]
  simp [hskip]

end DocSelect
