import DocSelect.Json.Basic
import DocSelect.Proofs.Collapse
/-!
# Documents in which no object repeats a key

Collapsing a document leaves every object with each key once. So a document in which no object
repeats a key, at any depth, stays as it is.

* `Json.KeysDistinct` : no object of the document repeats a key, at any depth;
* `Json.KeysDistinct.collapse_eq_self` : **such a document does not collapse**;
* `Json.keysDistinct_collapse` : **what a document collapses to repeats no key**.
-/

namespace DocSelect.Json

/-- A value is smaller than the entries it is among. -/
theorem sizeOf_snd_lt_of_mem {e : String × Json} {entries : List (String × Json)}
    (h : e ∈ entries) : sizeOf e.2 < sizeOf entries := by
  have hlt := List.sizeOf_lt_of_mem h
  obtain ⟨key, d⟩ := e
  rw [Prod.mk.sizeOf_spec] at hlt
  show sizeOf d < sizeOf entries
  omega

/-- Induction over a document: the items of an array and the values of an object satisfy what is to
be shown. -/
@[elab_as_elim, induction_eliminator]
theorem induction {motive : Json → Prop} (null : motive null) (bool : ∀ b, motive (bool b))
    (number : ∀ n, motive (number n)) (string : ∀ s, motive (string s))
    (array : ∀ items, (∀ d ∈ items, motive d) → motive (array items))
    (object : ∀ entries, (∀ e ∈ entries, motive e.2) → motive (object entries))
    (d : Json) : motive d :=
  match d with
  | .null => null
  | .bool b => bool b
  | .number n => number n
  | .string s => string s
  | .array items => array items fun d _ => induction null bool number string array object d
  | .object entries =>
    object entries fun e _ => induction null bool number string array object e.2
decreasing_by
  · have hlt := List.sizeOf_lt_of_mem ‹_ ∈ items›
    simp
    omega
  · have hlt := sizeOf_snd_lt_of_mem ‹_ ∈ entries›
    simp
    omega

/-- No object of the document, at any depth, has the same key twice. -/
def KeysDistinct : Json → Prop
  | .array items => ∀ d ∈ items, d.KeysDistinct
  | .object entries => (entries.map Prod.fst).Nodup ∧ ∀ e ∈ entries, e.2.KeysDistinct
  | _ => True
decreasing_by
  · have hlt := List.sizeOf_lt_of_mem ‹_ ∈ items›
    simp
    omega
  · have hlt := sizeOf_snd_lt_of_mem ‹_ ∈ entries›
    simp
    omega

/-- **A document that repeats no key does not collapse.** -/
theorem KeysDistinct.collapse_eq_self {d : Json} (h : d.KeysDistinct) : d.collapse = d := by
  induction d with
  | array items ih =>
    rw [KeysDistinct] at h
    have hself : items.map collapse = items := by
      refine (List.map_congr_left ?_).trans (List.map_id items)
      intro d hd
      exact ih d hd (h d hd)
    rw [collapse, collapseItems_eq_map, hself]
  | object entries ih =>
    rw [KeysDistinct] at h
    have hself : (entries.map fun e => (e.1, e.2.collapse)) = entries := by
      refine (List.map_congr_left ?_).trans (List.map_id entries)
      intro e he
      exact Prod.ext rfl (ih e he (h.2 e he))
    rw [collapse, collapseEntries_eq_map, hself, Keyed.collapse_of_nodup h.1]
  | _ => rfl

/-- **What a document collapses to repeats no key**, at any depth. -/
theorem keysDistinct_collapse (d : Json) : d.collapse.KeysDistinct := by
  induction d with
  | array items ih =>
    rw [collapse, collapseItems_eq_map, KeysDistinct]
    intro x hx
    obtain ⟨d, hd, rfl⟩ := List.mem_map.1 hx
    exact ih d hd
  | object entries ih =>
    rw [collapse, KeysDistinct, collapseEntries_eq_map]
    refine ⟨Keyed.nodup_map_fst_collapse _, ?_⟩
    intro e he
    -- an entry that is left is the last one of its key
    rw [Keyed.collapse_eq_lasts] at he
    obtain ⟨e', he', rfl⟩ := List.mem_map.1 (Keyed.mem_of_mem_lasts he)
    exact ih e' he'
  | _ => simp [collapse, KeysDistinct]

end DocSelect.Json
