/-!
# Lists of keyed entries

An association list whose order is part of its meaning, as in the text of an object.

* `Keyed.put` overwrites the entry of a key where it stands, or appends a new one.
* `Keyed.collapse` keeps, for each key, the last value at the place of the first entry.
* `Keyed.find?` looks up the first entry of a key.
-/

namespace DocSelect.Keyed

variable {κ β : Type} [DecidableEq κ]

/-- Overwrites the entry of `k` where it stands; a new key goes to the end. -/
def put (k : κ) (v : β) : List (κ × β) → List (κ × β)
  | [] => [(k, v)]
  | e :: rest => if e.1 = k then (k, v) :: rest else e :: put k v rest

/-- Each key once: the last value at the place of the first entry. -/
def collapse (entries : List (κ × β)) : List (κ × β) :=
  entries.foldl (fun acc e => put e.1 e.2 acc) []

/-- The value of the first entry of `k`. -/
def find? (k : κ) : List (κ × β) → Option β
  | [] => none
  | e :: rest => if e.1 = k then some e.2 else find? k rest

@[simp] theorem put_nil (k : κ) (v : β) : put k v [] = [(k, v)] := rfl

@[simp] theorem collapse_nil : collapse ([] : List (κ × β)) = [] := rfl

@[simp] theorem find?_nil (k : κ) : find? k ([] : List (κ × β)) = none := rfl

/-- What was put under a key is found under it. -/
@[simp] theorem find?_put_self (k : κ) (v : β) (l : List (κ × β)) :
    find? k (put k v l) = some v := by
  induction l with
  | nil => simp [find?]
  | cons e rest ih =>
    by_cases h : e.1 = k
    · simp [put, find?, h]
    · simp [put, find?, h, ih]

/-- Other keys keep their values. -/
theorem find?_put_of_ne {k k' : κ} (v : β) (l : List (κ × β)) (h : k' ≠ k) :
    find? k' (put k v l) = find? k' l := by
  induction l with
  | nil => simp [find?, Ne.symm h]
  | cons e rest ih =>
    by_cases hk : e.1 = k
    · subst hk; simp [put, find?, Ne.symm h]
    · simp [put, find?, hk, ih]

/-- Putting a key adds it to the keys unless it is there. -/
theorem map_fst_put (k : κ) (v : β) (l : List (κ × β)) :
    (put k v l).map Prod.fst = if k ∈ l.map Prod.fst then l.map Prod.fst
      else l.map Prod.fst ++ [k] := by
  induction l with
  | nil => simp
  | cons e rest ih =>
    by_cases h : e.1 = k
    · simp [put, h]
    · have h' : ¬ k = e.1 := fun e' => h e'.symm
      by_cases hk : k ∈ rest.map Prod.fst
      · simp only [put, h, if_false, List.map_cons, ih, hk, if_true, List.mem_cons, or_true]
      · simp only [put, h, if_false, List.map_cons, ih, hk, List.mem_cons, h', or_self,
          List.cons_append]

end DocSelect.Keyed
