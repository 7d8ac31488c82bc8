import DocSelect.Typed.Codec
import DocSelect.Proofs.ErrorText
import DocSelect.Proofs.SelectorGrammar
/-!
# The ways of reading a selector agree

A selector is read from a text, from a text that holds it as a value of its type, or from a document
whose repeated keys have collapsed. A text with a repeated key is read in none of the first two
ways, since a document that is read as a selector repeats no key. Without repeated keys there is
nothing to collapse, and all ways give the same.

* `Selector.ofText_eq_ok_iff`, `Selector.decode_eq_ok_iff` : a text is read if its document is;
* `Selector.ofJson_eq_ok_iff_distinct` : **a document with a repeated key is never read**;
* `Selector.decodeJson_eq` : **the report of an error in a selector is its text**;
* `Selector.reading_ways_agree` : **the ways of reading agree**.
-/

namespace DocSelect

/-- The document of a text with each key once is the collapsed document of the text. -/
theorem Json.readCollapsed_eq_ok_iff {text : String} {v : Json} :
    readCollapsed text = .ok v ↔ ∃ d, read text = .ok d ∧ d.collapse = v := by
  unfold readCollapsed
  cases read text with
  | error f => simp [Except.map]
  | ok d => simp [Except.map]

namespace Selector

/-! ## Texts -/

theorem ofText_eq_ok_iff {text : String} {s : Selector} :
    ofText text = .ok s ↔ ∃ d, Json.read text = .ok d ∧ ofJson d = .ok s := by
  unfold ofText
  cases Json.read text with
  | error f => simp
  | ok d => simp

theorem report_eq_ok_iff {α : Type} {text : String} {x : Except Json.Failure α} {a : α} :
    Typed.report text x = .ok a ↔ x = .ok a := by
  cases x <;> simp [Typed.report]

/-- Whether the selector or the end of the text is looked at first matters only for the report. -/
theorem decode_eq_ok_iff {text : String} {s : Selector} :
    decode text = .ok s ↔ ∃ d, Json.read text = .ok d ∧ ofJson d = .ok s := by
  simp only [decode, Json.read, Json.readTo, bind_eq_ok, report_eq_ok_iff]
  constructor
  · rintro ⟨⟨d, rest⟩, hd, s', hs, u, hfinish, hsame⟩
    obtain rfl : s' = s := Except.ok.inj hsame
    refine ⟨d, ⟨(d, rest), hd, u, hfinish, rfl⟩, ?_⟩
    cases h : ofJson d with
    | error e =>
      simp only [h, Except.mapError] at hs
      cases hs
    | ok s =>
      simp only [h, Except.mapError] at hs
      rw [Except.ok.inj hs]
  · rintro ⟨d, ⟨⟨d', rest⟩, hd, u, hfinish, hsame⟩, hs⟩
    obtain rfl : d' = d := Except.ok.inj hsame
    exact ⟨(d', rest), hd, s, by rw [hs]; rfl, u, hfinish, rfl⟩

/-! ## Documents whose repeated keys collapse -/

/-- Without repeated keys there is nothing to collapse. -/
theorem ofCollapsed_eq_ofJson {d : Json} (h : d.KeysDistinct) : ofCollapsed d = ofJson d := by
  rw [ofCollapsed, h.collapse_eq_self]

/-- Keys that have collapsed once do not collapse again. -/
theorem ofCollapsed_collapse (d : Json) : ofCollapsed d.collapse = ofCollapsed d := by
  rw [ofCollapsed_eq_ofJson d.keysDistinct_collapse, ofCollapsed]

/-- **A document is read as a selector if it repeats no key**, at any depth, **and its collapsed
form is read.** -/
theorem ofJson_eq_ok_iff_distinct {d : Json} {s : Selector} :
    ofJson d = .ok s ↔ d.KeysDistinct ∧ ofCollapsed d = .ok s := by
  constructor
  · intro h
    have hgrammar : d.IsSelector := exists_spells_iff.1 ⟨s, ofJson_eq_ok_iff.1 h⟩
    have hkeys := hgrammar.keysDistinct
    rw [ofCollapsed_eq_ofJson hkeys]
    exact ⟨hkeys, h⟩
  · rintro ⟨hkeys, h⟩
    rwa [ofCollapsed_eq_ofJson hkeys] at h

/-- **The report of an error in a document is the text of the error**: with the keys collapsed, the
error quotes a part of the document. -/
theorem decodeJson_eq (v : Json) :
    decodeJson v = (ofCollapsed v).mapError SelectorError.message := by
  unfold decodeJson
  cases h : ofCollapsed v with
  | ok s => rfl
  | error e =>
    obtain ⟨d, hd⟩ := quotes_of_ofJson v.keysDistinct_collapse h
    exact congrArg Except.error hd.restate_message

/-- **The ways of reading a selector agree.** A text is read as a selector just if it is read as a
value of its type, and just if it is JSON text in which no object repeats a key, at any depth, and
the document with its keys collapsed is read. If no object of a text repeats a key, the text and the
collapsed document give the same, errors included. A document is read as a value of the type with
the same selector or with the text of the same error. -/
theorem reading_ways_agree (text : String) :
    (∀ s, ofText text = .ok s ↔ decode text = .ok s) ∧
      (∀ s, ofText text = .ok s ↔ ∃ d v, Json.read text = .ok d ∧ d.KeysDistinct ∧
        Json.readCollapsed text = .ok v ∧ ofCollapsed v = .ok s) ∧
      (∀ d v, Json.read text = .ok d → d.KeysDistinct → Json.readCollapsed text = .ok v →
        ofText text = ofCollapsed v) ∧
      ∀ v, decodeJson v = (ofCollapsed v).mapError SelectorError.message := by
  refine ⟨?types, ?texts, ?same, decodeJson_eq⟩
  case types =>
    intro s
    rw [ofText_eq_ok_iff, decode_eq_ok_iff]
  case texts =>
    intro s
    rw [ofText_eq_ok_iff]
    constructor
    · rintro ⟨d, hd, hs⟩
      obtain ⟨hkeys, hs⟩ := ofJson_eq_ok_iff_distinct.1 hs
      rw [← ofCollapsed_collapse] at hs
      exact ⟨d, d.collapse, hd, hkeys, Json.readCollapsed_eq_ok_iff.2 ⟨d, hd, rfl⟩, hs⟩
    · rintro ⟨d, v, hd, hkeys, hv, hs⟩
      obtain ⟨d', hd', rfl⟩ := Json.readCollapsed_eq_ok_iff.1 hv
      obtain rfl : d = d' := Except.ok.inj (hd.symm.trans hd')
      rw [ofCollapsed_collapse] at hs
      exact ⟨d, hd, ofJson_eq_ok_iff_distinct.2 ⟨hkeys, hs⟩⟩
  case same =>
    intro d v hd hkeys hv
    obtain ⟨d', hd', rfl⟩ := Json.readCollapsed_eq_ok_iff.1 hv
    obtain rfl : d = d' := Except.ok.inj (hd.symm.trans hd')
    rw [ofCollapsed_collapse, ofCollapsed_eq_ofJson hkeys, ofText, hd]

/-- A text with an unknown operator: both ways report the same error. -/
theorem reading_ways_agree_operator :
    Json.read "\x7b\"a\":\x7b\"$in\":\"b\"\x7d\x7d" =
        .ok (.object [("a", .object [("$in", .string "b")])]) ∧
      ofText "\x7b\"a\":\x7b\"$in\":\"b\"\x7d\x7d" =
        ofCollapsed (.object [("a", .object [("$in", .string "b")])]) := by
  have hread : Json.read "\x7b\"a\":\x7b\"$in\":\"b\"\x7d\x7d" =
      .ok (.object [("a", .object [("$in", .string "b")])]) := by
    cbv
  have hkeys : (Json.object [("a", .object [("$in", .string "b")])]).KeysDistinct := by
    simp [Json.KeysDistinct]
  have hcollapsed : Json.readCollapsed "\x7b\"a\":\x7b\"$in\":\"b\"\x7d\x7d" =
      .ok (.object [("a", .object [("$in", .string "b")])]) :=
    Json.readCollapsed_eq_ok_iff.2 ⟨_, hread, hkeys.collapse_eq_self⟩
  exact ⟨hread, (reading_ways_agree _).2.2.1 _ _ hread hkeys hcollapsed⟩

end Selector

end DocSelect
