import DocSelect.Keyed
import Mathlib.Data.List.Basic
import Mathlib.Data.List.Induction
import Mathlib.Data.List.Nodup
/-!
# Lists with each key once

Entries that are put one after the other leave, for each key, the last value at the place of the
first entry. This is said without any order of events: the keys in the order in which they first
occur, each with the last member that has it.

* `Keyed.lasts` : for each key the last member that has it, at the place of the first one;
* `Keyed.collapse_eq_lasts` : **putting entries one after the other keeps the last of each key**;
* `Keyed.collapse_of_nodup` : distinct keys stay as they are.
-/

namespace DocSelect.Keyed

section

variable {κ α β : Type} [DecidableEq κ]

/-- For each key the last member that has it, at the place of the first one. -/
def lasts (key : α → κ) (l : List α) : List α :=
  (l.map key).eraseDups.filterMap fun k => l.reverse.find? fun a => decide (key a = k)

theorem mem_of_mem_lasts {key : α → κ} {l : List α} {a : α} (h : a ∈ lasts key l) : a ∈ l := by
  obtain ⟨k, -, hk⟩ := List.mem_filterMap.1 h
  exact List.mem_reverse.1 (List.mem_of_find?_eq_some hk)

/-- A key that occurs has a last member. -/
theorem exists_find?_reverse {key : α → κ} {l : List α} {k : κ} (h : k ∈ l.map key) :
    ∃ a, l.reverse.find? (fun a => decide (key a = k)) = some a ∧ key a = k := by
  obtain ⟨b, hb, rfl⟩ := List.mem_map.1 h
  have hsome : (l.reverse.find? fun a => decide (key a = key b)).isSome = true := by
    rw [List.find?_isSome]
    exact ⟨b, List.mem_reverse.2 hb, decide_eq_true rfl⟩
  obtain ⟨a, ha⟩ := Option.isSome_iff_exists.1 hsome
  exact ⟨a, ha, by simpa using List.find?_some ha⟩

/-- The keys stay, in the order in which they first occur. -/
theorem map_key_lasts (key : α → κ) (l : List α) :
    (lasts key l).map key = (l.map key).eraseDups := by
  rw [lasts, List.map_filterMap]
  have hself : ∀ k ∈ (l.map key).eraseDups,
      ((l.reverse.find? fun a => decide (key a = k)).map key) = some k := by
    intro k hk
    obtain ⟨a, ha, hkey⟩ := exists_find?_reverse (List.mem_eraseDups.1 hk)
    rw [ha, Option.map_some, hkey]
  rw [List.filterMap_congr hself, List.filterMap_some]

theorem eraseDups_concat (ks : List κ) (k : κ) :
    (ks ++ [k]).eraseDups = if k ∈ ks then ks.eraseDups else ks.eraseDups ++ [k] := by
  rw [List.eraseDups_append]
  by_cases h : k ∈ ks <;> simp [List.removeAll, List.eraseDups_cons, h]

theorem nodup_eraseDups (ks : List κ) : ks.eraseDups.Nodup := by
  induction ks using List.reverseRecOn with
  | nil => simp
  | append_singleton ks k ih =>
    rw [eraseDups_concat]
    split
    · exact ih
    · next h =>
      rw [List.nodup_append]
      refine ⟨ih, List.nodup_singleton k, ?_⟩
      rintro a ha b hb rfl
      exact h (List.mem_singleton.1 hb ▸ List.mem_eraseDups.1 ha)

theorem eraseDups_of_nodup {ks : List κ} (h : ks.Nodup) : ks.eraseDups = ks := by
  induction ks using List.reverseRecOn with
  | nil => simp
  | append_singleton ks k ih =>
    rw [← List.concat_eq_append, List.nodup_concat] at h
    rw [eraseDups_concat, if_neg h.1, ih h.2]

theorem nodup_map_key_lasts (key : α → κ) (l : List α) : ((lasts key l).map key).Nodup := by
  rw [map_key_lasts]
  exact nodup_eraseDups _

theorem lasts_map {γ : Type} (key : α → κ) (f : γ → α) (l : List γ) :
    lasts key (l.map f) = (lasts (key ∘ f) l).map f := by
  rw [lasts, lasts, List.map_map, List.map_filterMap]
  refine List.filterMap_congr fun k _ => ?_
  rw [← List.map_reverse, List.find?_map]
  rfl

/-- Distinct keys stay as they are. -/
theorem lasts_of_nodup {key : α → κ} {l : List α} (h : (l.map key).Nodup) : lasts key l = l := by
  have hself : ∀ a ∈ l, (l.reverse.find? fun b => decide (key b = key a)) = some a := by
    intro a ha
    obtain ⟨b, hb, hkey⟩ := exists_find?_reverse (List.mem_map_of_mem (f := key) ha)
    have hmem := List.mem_reverse.1 (List.mem_of_find?_eq_some hb)
    rw [hb, List.inj_on_of_nodup_map h hmem ha hkey]
  rw [lasts, eraseDups_of_nodup h, List.filterMap_map]
  exact (List.filterMap_congr hself).trans List.filterMap_some

/-- The last member with a key, after one member more. -/
theorem find?_reverse_concat (key : α → κ) (l : List α) (a : α) (k : κ) :
    (l ++ [a]).reverse.find? (fun b => decide (key b = k)) =
      if key a = k then some a else l.reverse.find? fun b => decide (key b = k) := by
  rw [List.reverse_concat, List.find?_cons]
  split
  · next h => rw [if_pos (of_decide_eq_true h)]
  · next h => rw [if_neg (of_decide_eq_false h)]

/-- One member more takes the place of the member with its key, or a new place at the end. -/
theorem lasts_concat (key : α → κ) (l : List α) (a : α) :
    lasts key (l ++ [a]) =
      if key a ∈ l.map key then (lasts key l).map fun b => if key b = key a then a else b
      else lasts key l ++ [a] := by
  rw [lasts, List.map_append, List.map_singleton, eraseDups_concat]
  split
  · -- the key has its place already, and the last member with it is the new one
    rw [lasts, List.map_filterMap]
    refine List.filterMap_congr fun k hk => ?_
    obtain ⟨b, hb, rfl⟩ := exists_find?_reverse (List.mem_eraseDups.1 hk)
    rw [find?_reverse_concat, hb, Option.map_some]
    by_cases h : key a = key b
    · rw [if_pos h, if_pos h.symm]
    · rw [if_neg h, if_neg (Ne.symm h)]
  · next h =>
    rw [List.filterMap_append, lasts]
    congr 1
    · refine List.filterMap_congr fun k hk => ?_
      have hne : key a ≠ k := fun heq => h (heq ▸ List.mem_eraseDups.1 hk)
      rw [find?_reverse_concat, if_neg hne]
    · simp

/-- Putting a value replaces the only entry of the key, or adds one at the end. -/
theorem put_eq {k : κ} {v : β} {l : List (κ × β)} (h : (l.map Prod.fst).Nodup) :
    put k v l =
      if k ∈ l.map Prod.fst then l.map fun e => if e.1 = k then (k, v) else e
      else l ++ [(k, v)] := by
  induction l with
  | nil => simp
  | cons e rest ih =>
    rw [List.map_cons, List.nodup_cons] at h
    by_cases he : e.1 = k
    · have hrest : rest.map (fun e => if e.1 = k then (k, v) else e) = rest := by
        refine (List.map_congr_left fun x hx => ?_).trans (List.map_id rest)
        have hne : x.1 ≠ k := fun heq => h.1 (he ▸ heq ▸ List.mem_map_of_mem hx)
        rw [if_neg hne, id]
      simp [put, he, hrest]
    · have hne : ¬ k = e.1 := fun heq => he heq.symm
      rw [put, if_neg he, ih h.2]
      by_cases hk : k ∈ rest.map Prod.fst
      · simp [hk, he]
      · simp [hk, hne]

/-- **Putting entries one after the other keeps the last of each key**, at the place of the first
one. -/
theorem collapse_eq_lasts (l : List (κ × β)) : collapse l = lasts Prod.fst l := by
  induction l using List.reverseRecOn with
  | nil => rfl
  | append_singleton l e ih =>
    -- the last entry is put into what the others leave, which has each key once
    have hput : collapse (l ++ [e]) = put e.1 e.2 (collapse l) := by
      rw [collapse, List.foldl_append]
      rfl
    rw [hput, ih, put_eq (nodup_map_key_lasts Prod.fst l), lasts_concat, map_key_lasts]
    simp only [List.mem_eraseDups]

/-- The keys of collapsed entries are distinct. -/
theorem nodup_map_fst_collapse (l : List (κ × β)) : ((collapse l).map Prod.fst).Nodup := by
  rw [collapse_eq_lasts]
  exact nodup_map_key_lasts Prod.fst l

/-- Entries with distinct keys stay as they are. -/
theorem collapse_of_nodup {l : List (κ × β)} (h : (l.map Prod.fst).Nodup) : collapse l = l := by
  rw [collapse_eq_lasts, lasts_of_nodup h]

/-- The entries of the members of a list: those of the last member of each key. -/
theorem collapse_map (key : α → κ) (f : α → β) (l : List α) :
    collapse (l.map fun a => (key a, f a)) = (lasts key l).map fun a => (key a, f a) := by
  rw [collapse_eq_lasts, lasts_map]
  rfl

end

end DocSelect.Keyed
