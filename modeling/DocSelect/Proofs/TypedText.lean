import DocSelect.Config
import DocSelect.Proofs.DocumentText
import DocSelect.Typed.Codec
/-!
# Reading back typed values

Scalars, paths, errors of selectors and settings of a store have JSON text of their own: a scalar
and a path are written as the value alone, an error as an object whose only key names the variant,
settings as a record whose fields may be missing. Each text is read back as the value it is of.

* `FieldValue.Writes`, `FieldValue.WritesEntries` : the documents that fields are written as;
* `RecordShape.Fits` : the values are those of the fields of a record, in order;
* `Typed.record_chars`, `Typed.variant_chars` : **a record and a variant are read back**, whatever
  follows them;
* `StoreConfig.encode_eq_render` : settings are written as an object;
* `encode_reads_back` : **each typed value is read back as itself**.
-/

namespace DocSelect

/-! ## Keyed entries -/

namespace Keyed

variable {κ β : Type} [DecidableEq κ]

theorem find?_eq_none {k : κ} {l : List (κ × β)} (h : k ∉ l.map Prod.fst) : find? k l = none := by
  induction l with
  | nil => rfl
  | cons e rest ih =>
    rw [List.map_cons, List.mem_cons, not_or] at h
    rw [find?, if_neg (Ne.symm h.1), ih h.2]

/-- Where keys are distinct, each entry is found under its key. -/
theorem find?_of_mem {l : List (κ × β)} (hl : (l.map Prod.fst).Nodup) {e : κ × β} (he : e ∈ l) :
    find? e.1 l = some e.2 := by
  induction l with
  | nil => cases he
  | cons f rest ih =>
    rw [List.map_cons, List.nodup_cons] at hl
    rcases List.mem_cons.1 he with rfl | he
    · rw [find?, if_pos rfl]
    · have hne : f.1 ≠ e.1 := fun heq => hl.1 (heq ▸ List.mem_map_of_mem he)
      rw [find?, if_neg hne, ih hl.2 he]

end Keyed

/-! ## Fields -/

namespace FieldValue

/-- The type of the field that holds a value. -/
def type : FieldValue → FieldType
  | string _ => .string
  | flag _ => .flag
  | natural _ => .natural

/-- The value of a field is written as a document. -/
inductive Writes : FieldValue → Json → Prop
  /-- A string as itself. -/
  | string (s : String) : Writes (.string s) (.string s)
  /-- A truth value as itself. -/
  | flag (b : Bool) : Writes (.flag b) (.bool b)
  /-- An unsigned integer as a number. -/
  | natural {n : Nat} (w : Whole) (hw : w.val = n) : Writes (.natural n) (.number (.whole w))

/-- The fields are written as the entries of an object, in order. -/
def WritesEntries (values : List (String × FieldValue)) (entries : List (String × Json)) : Prop :=
  List.Forall₂ (fun v e => v.1 = e.1 ∧ v.2.Writes e.2) values entries

end FieldValue

/-- The values are those of the fields of a record, in order, and no two fields have one name. -/
structure RecordShape.Fits (shape : RecordShape) (values : List (String × FieldValue)) : Prop where
  /-- The fields. -/
  fields : shape.fields = values.map fun v => (v.1, v.2.type)
  /-- The names. -/
  nodup : (values.map Prod.fst).Nodup

namespace RecordShape.Fits

variable {shape : RecordShape} {values : List (String × FieldValue)} (h : shape.Fits values)
include h

theorem find?_fields {v : String × FieldValue} (hv : v ∈ values) :
    Keyed.find? v.1 shape.fields = some v.2.type := by
  have hnodup : (shape.fields.map Prod.fst).Nodup := by
    rw [h.fields, List.map_map]
    exact h.nodup
  have hmem : (v.1, v.2.type) ∈ shape.fields := by
    rw [h.fields]
    exact List.mem_map_of_mem hv
  exact Keyed.find?_of_mem hnodup hmem

/-- No field is missing. -/
theorem find?_isNone : (shape.fields.find? fun f => (Keyed.find? f.1 values).isNone) = none := by
  rw [List.find?_eq_none, h.fields]
  intro f hf
  obtain ⟨v, hv, rfl⟩ := List.mem_map.1 hf
  simp [Keyed.find?_of_mem h.nodup hv]

end RecordShape.Fits

namespace Typed

open Json Json.Read

/-! ## Values of fields -/

/-- A string is read behind its opening quote. -/
theorem string_chars (expected s : String) (rest : List Char) :
    string expected ((Json.string s).chars ++ rest) = .ok (s, rest) := by
  have hchars :
      (Json.string s).chars ++ rest = '"' :: (s.toList.flatMap escape ++ '"' :: rest) := by
    simp [chars, quote]
  rw [hchars, string, skipBlank_cons (by decide)]
  exact string_quote s rest

theorem flag_chars (b : Bool) (rest : List Char) :
    flag ((Json.bool b).chars ++ rest) = .ok (b, rest) := by
  cases b <;> rfl

theorem natural_chars {w : Whole} (hw : 0 ≤ w.val) {rest : List Char} (hrest : EndsNumber rest) :
    natural ((Json.number (.whole w)).chars ++ rest) = .ok (w.val.toNat, rest) := by
  have hread := number_intText w hrest
  obtain ⟨c, s, hcs, hc⟩ := text_eq_cons (.whole w)
  obtain ⟨c', s', hcs', hblank, -⟩ := chars_eq_cons (.number (.whole w))
  obtain ⟨rfl, rfl⟩ := List.cons.inj (hcs.symm.trans hcs')
  rw [← Number.text_whole, hcs, List.cons_append] at hread
  rw [hcs', List.cons_append, natural, skipBlank_cons hblank]
  simp only [if_pos hc, hread, bind, Except.bind, if_neg (not_lt.2 hw)]

/-- The value of a field is read back in front of what does not continue a number. -/
theorem fieldValue_chars {v : FieldValue} {d : Json} (h : v.Writes d) {rest : List Char}
    (hrest : EndsNumber rest) : fieldValue v.type (d.chars ++ rest) = .ok (v, rest) := by
  cases h with
  | string s =>
    rw [FieldValue.type, fieldValue, string_chars]
    rfl
  | flag b =>
    rw [FieldValue.type, fieldValue, flag_chars]
    rfl
  | natural w hw =>
    rw [FieldValue.type, fieldValue, natural_chars (by omega) hrest, hw]
    rfl

/-! ## Records -/

section

variable {fields : List (String × FieldType)} {seen values : List (String × FieldValue)}
  {entries : List (String × Json)}

/-- An entry whose key names a new field is read, and added to what was seen. -/
theorem exists_fieldEntry_eq_ok {name : String} {v : FieldValue} {d : Json} (h : v.Writes d)
    (hfield : Keyed.find? name fields = some v.type) (hnew : Keyed.find? name seen = none)
    {rest : List Char} (hrest : EndsNumber rest) :
    ∃ s, quote name ++ ':' :: (d.chars ++ rest) = '"' :: s ∧
      fieldEntry fields seen ('"' :: s) = .ok (seen ++ [(name, v)], rest) := by
  refine ⟨name.toList.flatMap escape ++ '"' :: ':' :: (d.chars ++ rest), by simp [quote], ?_⟩
  rw [fieldEntry]
  simp only [string_quote, hfield, hnew, Option.isSome_none, Bool.false_eq_true, if_false, colon,
    skipBlank_cons (by decide : isBlank ':' = false), if_true, fieldValue_chars h hrest, bind,
    Except.bind]

/-- The entries behind the first one are added in order. -/
theorem moreFields_charsEntries
    (h : FieldValue.WritesEntries values entries)
    (hfields : ∀ v ∈ values, Keyed.find? v.1 fields = some v.2.type)
    (hnodup : ((seen ++ values).map Prod.fst).Nodup) {fuel : ℕ} (hfuel : entries.length < fuel)
    (rest : List Char) :
    moreFields fields fuel seen (charsEntries entries ++ rest) = .ok (seen ++ values, rest) := by
  obtain ⟨fuel, rfl⟩ : ∃ k, fuel = k + 1 := Nat.exists_eq_succ_of_ne_zero (by omega)
  induction h generalizing seen fuel with
  | nil =>
    rw [List.append_nil]
    rfl
  | @cons v e values entries hve _ ih =>
    obtain ⟨name, v⟩ := v
    obtain ⟨name', d⟩ := e
    obtain ⟨rfl, hwrites⟩ := hve
    rw [List.forall_mem_cons] at hfields
    rw [List.length_cons] at hfuel
    obtain ⟨fuel, rfl⟩ : ∃ k, fuel = k + 1 := Nat.exists_eq_succ_of_ne_zero (by omega)
    have hnew : Keyed.find? name seen = none := by
      refine Keyed.find?_eq_none fun hmem => ?_
      rw [List.map_append, List.nodup_append] at hnodup
      exact hnodup.2.2 name hmem name (by simp) rfl
    have hsplit : seen ++ (name, v) :: values = (seen ++ [(name, v)]) ++ values := by simp
    rw [hsplit] at hnodup ⊢
    have hmore := ih hfields.2 hnodup fuel (by omega)
    obtain ⟨s, hquote, hentry⟩ := exists_fieldEntry_eq_ok hwrites hfields.1 hnew
      (endsNumber_charsEntries entries rest)
    have hchars : charsEntries ((name, d) :: entries) ++ rest = ',' :: '"' :: s := by
      simp [charsEntries, ← hquote]
    rw [hchars, moreFields, skipBlank_cons (by decide)]
    simp only [skipBlank_cons (by decide : isBlank '"' = false), if_neg (by decide : ¬ ',' = '}'),
      if_neg (by decide : ¬ '"' = '}'), if_true, hentry, bind, Except.bind]
    exact hmore

/-- **A record is read back** from the object of its fields, whatever follows it. -/
theorem record_chars {shape : RecordShape} (hshape : shape.Fits values)
    (h : FieldValue.WritesEntries values entries) (rest : List Char) :
    record shape ((Json.object entries).chars ++ rest) = .ok (values, rest) := by
  have hcomplete : complete shape values rest = .ok (values, rest) := by
    unfold complete
    split
    · rfl
    · rw [hshape.find?_isNone]
  suffices hmap : ∃ s, (Json.object entries).chars ++ rest = '{' :: s ∧
      fieldsOfMap shape.fields s = .ok (values, rest) by
    obtain ⟨s, hs, hmap⟩ := hmap
    rw [hs, record, skipBlank_cons (by decide)]
    simp only [if_true, hmap, bind, Except.bind, hcomplete]
  have hfields : ∀ v ∈ values, Keyed.find? v.1 shape.fields = some v.2.type :=
    fun v hv => hshape.find?_fields hv
  cases h with
  | nil => exact ⟨'}' :: rest, rfl, rfl⟩
  | @cons v e values entries hve hmore =>
    obtain ⟨name, v⟩ := v
    obtain ⟨name', d⟩ := e
    obtain ⟨rfl, hwrites⟩ := hve
    rw [List.forall_mem_cons] at hfields
    have hnew : Keyed.find? name ([] : List (String × FieldValue)) = none := rfl
    obtain ⟨s, hquote, hentry⟩ := exists_fieldEntry_eq_ok hwrites hfields.1 hnew
      (endsNumber_charsEntries entries rest)
    refine ⟨'"' :: s, by simp [chars, ← hquote], ?_⟩
    rw [fieldsOfMap, skipBlank_cons (by decide)]
    simp only [if_neg (by decide : ¬ '"' = '}'), hentry, bind, Except.bind]
    exact moreFields_charsEntries hmore hfields.2 hshape.nodup
      (length_lt_charsEntries entries rest) rest

end

/-! ## Variants -/

/-- **A variant is read back** from the object whose only key is its name, when its contents are. -/
theorem variant_chars {α : Type} {known : List String} (bare : String → Except Failure α)
    {contents : String → List Char → Except Failure (α × List Char)} {name : String}
    (hname : name ∈ known) {d : Json} {x : α}
    (h : ∀ rest, contents name (d.chars ++ rest) = .ok (x, rest)) (rest : List Char) :
    variant known bare contents ((Json.object [(name, d)]).chars ++ rest) = .ok (x, rest) := by
  have hchars : (Json.object [(name, d)]).chars ++ rest =
      '{' :: ((Json.string name).chars ++ ':' :: (d.chars ++ '}' :: rest)) := by
    simp [chars, charsEntries]
  rw [hchars, variant, skipBlank_cons (by decide)]
  simp only [if_true, variantName, string_chars, if_pos hname, colon,
    skipBlank_cons (by decide : isBlank ':' = false), h,
    skipBlank_cons (by decide : isBlank '}' = false), bind, Except.bind]

/-! ## Whole texts -/

/-- A document is read as what it is read back as. -/
theorem value_of_reread {d x : Json} {depth : ℕ} (h : d.reread depth = some x) {rest : List Char}
    (hrest : EndsNumber rest) : value depth (d.chars ++ rest) = .ok (x, rest) := by
  have hvalue := value_chars d depth rest hrest
  rw [h] at hvalue
  cases hread : value depth (d.chars ++ rest) with
  | error f =>
    rw [hread] at hvalue
    cases hvalue
  | ok p =>
    rw [hread] at hvalue
    exact congrArg _ (Option.some.inj hvalue)

/-- A text is read back if its value is read up to the end. -/
theorem report_whole {α : Type} {read : List Char → Except Failure (α × List Char)} {d : Json}
    {x : α} (h : read (d.chars ++ []) = .ok (x, [])) :
    report d.render (whole read d.render) = .ok x := by
  rw [List.append_nil] at h
  rw [whole, toList_render, h]
  rfl

end Typed

/-! ## Scalars, errors and settings -/

open Json Json.Read

/-- **A scalar is read back**, unless it is a binary number. -/
theorem Scalar.decode_encode {v : Scalar} (hv : ∀ x, v ≠ .number (.float x)) :
    decode v.encode = .ok v := by
  have hreread : v.toJson.reread maxDepth = some v.toJson := by
    match v with
    | .bool _ | .string _ => rfl
    | .number (.whole w) => rw [toJson, Json.reread, reread_whole, Option.map_some]
    | .number (.float x) => exact absurd rfl (hv x)
  refine Typed.report_whole ?_
  simp only [step, Typed.value_of_reread hreread endsNumber_nil, bind, Except.bind, ofJson?_toJson]

/-- A path is written as a string, and read back from it. -/
theorem decodePath_encodePath (path : String) : decodePath (encodePath path) = .ok path :=
  Typed.report_whole (Typed.string_chars _ path [])

namespace SelectorError

/-- Each variant has its sample. -/
theorem exists_sample (e : SelectorError) :
    ∃ sample ∈ samples, samples.find? (fun x => x.kind == e.kind) = some sample ∧
      sample.kind = e.kind ∧ sample.shape = e.shape ∧
      ∀ get, sample.withFields get = e.withFields get := by
  cases e <;> exact ⟨_, by simp [samples], rfl, rfl, rfl, fun _ => rfl⟩

/-- The fields of an error as values of a record. -/
def values (e : SelectorError) : List (String × FieldValue) :=
  e.fields.map fun f => (f.1, .string f.2)

theorem fits_values (e : SelectorError) : e.shape.Fits e.values where
  fields := by
    rw [values, List.map_map]
    rfl
  nodup := by
    rw [values, List.map_map]
    cases e <;> simp [fields]

/-- With the fields that it has an error is itself. -/
theorem withFields_values (e : SelectorError) : e.withFields (fieldText e.values) = e := by
  cases e <;> rfl

/-- **An error of a selector is read back.** -/
theorem decode_encode (e : SelectorError) : decode e.encode = .ok e := by
  obtain ⟨sample, hmem, hfind, hkind, hshape, hwith⟩ := e.exists_sample
  have hname : e.kind ∈ samples.map kind := hkind ▸ List.mem_map_of_mem hmem
  have hwrites : FieldValue.WritesEntries e.values (e.fields.map fun f => (f.1, .string f.2)) := by
    rw [values, FieldValue.WritesEntries, List.forall₂_map_left_iff, List.forall₂_map_right_iff,
      List.forall₂_same]
    exact fun f _ => ⟨rfl, .string f.2⟩
  refine Typed.report_whole (Typed.variant_chars _ hname (fun rest => ?_) [])
  rw [hfind, Option.getD_some]
  simp only [hshape, Typed.record_chars e.fits_values hwrites, bind, Except.bind, hwith,
    withFields_values]

end SelectorError

namespace StoreConfig

/-- The settings as values of a record. -/
def values (c : StoreConfig) : List (String × FieldValue) :=
  [("path", .string c.path), ("busy_timeout_ms", .natural c.busyTimeout),
    ("register_regexp", .flag c.regexp)]

theorem fits_values (c : StoreConfig) : shape.Fits c.values where
  fields := rfl
  nodup := by simp [values]

theorem ofFields_values (c : StoreConfig) : ofFields c.values = c := rfl

/-- The settings are written as an object. -/
theorem encode_eq_render (c : StoreConfig) {w : Whole} (hw : w.val = c.busyTimeout) :
    c.encode = (Json.object [("path", .string c.path), ("busy_timeout_ms", .number (.whole w)),
      ("register_regexp", .bool c.regexp)]).render := by
  have hpath : "\x7b\"path\":".toList = '{' :: (quote "path" ++ [':']) := by
    decide +kernel
  have htimeout : ",\"busy_timeout_ms\":".toList = ',' :: (quote "busy_timeout_ms" ++ [':']) := by
    decide +kernel
  have hregexp : ",\"register_regexp\":".toList = ',' :: (quote "register_regexp" ++ [':']) := by
    decide +kernel
  have hdigits : intText w.val = natDigits c.busyTimeout := by
    rw [hw]
    rfl
  unfold encode render
  rw [hpath, htimeout, hregexp, ← hdigits]
  cases c.regexp <;>
    simp only [chars, charsEntries, Number.text_whole, List.cons_append, List.append_assoc,
      List.nil_append]

/-- **Settings are read back**, if the time to wait is an integer of 64 bits. -/
theorem decode_encode {c : StoreConfig} (hc : c.busyTimeout < 2 ^ 64) :
    decode c.encode = .ok c := by
  obtain ⟨w, hw⟩ : ∃ w : Whole, w.val = c.busyTimeout := ⟨⟨c.busyTimeout, by omega, by omega⟩, rfl⟩
  rw [c.encode_eq_render hw]
  refine Typed.report_whole ?_
  have hwrites : FieldValue.WritesEntries c.values
      [("path", .string c.path), ("busy_timeout_ms", .number (.whole w)),
        ("register_regexp", .bool c.regexp)] :=
    .cons ⟨rfl, .string c.path⟩ (.cons ⟨rfl, .natural w hw⟩ (.cons ⟨rfl, .flag c.regexp⟩ .nil))
  simp only [Typed.record_chars c.fits_values hwrites, bind, Except.bind, ofFields_values]

end StoreConfig

/-- **Typed values are read back as themselves.** The text of a scalar other than a binary number is
read as that scalar: a string stays a string, whatever it spells, and an integer keeps its value. So
are the texts of all paths, of all errors of a selector with any strings in their fields, and of all
settings whose time to wait is an unsigned integer of 64 bits. -/
theorem encode_reads_back :
    (∀ v : Scalar, (∀ x, v ≠ .number (.float x)) → Scalar.decode v.encode = .ok v) ∧
    (∀ path, decodePath (encodePath path) = .ok path) ∧
    (∀ e : SelectorError, SelectorError.decode e.encode = .ok e) ∧
    ∀ c : StoreConfig, c.busyTimeout < 2 ^ 64 → StoreConfig.decode c.encode = .ok c :=
  ⟨fun _ hv => Scalar.decode_encode hv, decodePath_encodePath, SelectorError.decode_encode,
    fun _ hc => StoreConfig.decode_encode hc⟩

/-- A string that spells a truth value, the largest integer, and settings with the longest time to
wait. -/
theorem encode_reads_back_largest :
    Scalar.decode (Scalar.encode (.string "true")) = .ok (.string "true") ∧
    Scalar.decode (Scalar.encode (.number (.whole ⟨2 ^ 64 - 1, by decide, by decide⟩))) =
      .ok (.number (.whole ⟨2 ^ 64 - 1, by decide, by decide⟩)) ∧
    StoreConfig.decode (StoreConfig.encode ⟨"\"\x00\\", 2 ^ 64 - 1, false⟩) =
      .ok ⟨"\"\x00\\", 2 ^ 64 - 1, false⟩ := by
  obtain ⟨hscalar, -, -, hconfig⟩ := encode_reads_back
  refine ⟨hscalar _ fun x h => ?_, hscalar _ fun x h => ?_, hconfig _ (by decide)⟩
  · cases h
  · cases h

end DocSelect
