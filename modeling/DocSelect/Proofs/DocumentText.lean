import DocSelect.Proofs.ErrorText
import DocSelect.Proofs.ScalarText
/-!
# Reading back documents

The text of a document is read as the document with each of its numbers read back, unless it nests
too deep. What the printer writes for an item or a value is read up to its end in every context:
nothing that follows it there continues a number.

* `Json.reread` : what the text of a document is read as, and `Json.AllNumbers` a property of all
  of its numbers;
* `Json.reread_eq_self_iff`, `Json.exists_reread_iff` : a document is read back as itself, or at
  all, if and only if it does not nest too deep and each of its numbers is;
* `Json.Read.value_chars`, `Json.toOption_read_render` : **reading back the text of a document**;
* `Json.render_reads_back` : **a document of integers is read back as itself**, with repeated keys
  and any characters in its strings; its text stands for no other one, and neither does the text
  that an error quotes.
-/

namespace DocSelect

/-- The number is an exact integer. -/
def Number.IsWhole (n : Number) : Prop := ∃ w, n = .whole w

namespace Json

/-! ## What a document is read back as -/

mutual
/-- The document that the text of a document is read as, with its arrays and objects nested at most
`depth` deep. -/
def reread (depth : Nat) : Json → Option Json
  | .number n => n.reread.map .number
  | .array items =>
    match depth with
    | 0 => none
    | depth + 1 => (rereadItems depth items).map .array
  | .object entries =>
    match depth with
    | 0 => none
    | depth + 1 => (rereadEntries depth entries).map .object
  | d => some d
termination_by structural d => d
/-- The items, each read back. -/
def rereadItems (depth : Nat) : List Json → Option (List Json)
  | [] => some []
  | d :: rest => (reread depth d).bind fun x => (rereadItems depth rest).map (x :: ·)
termination_by structural items => items
/-- The entries, each value read back; the keys stay as they are. -/
def rereadEntries (depth : Nat) : List (String × Json) → Option (List (String × Json))
  | [] => some []
  | (k, d) :: rest =>
    (reread depth d).bind fun x => (rereadEntries depth rest).map ((k, x) :: ·)
termination_by structural entries => entries
end

/-- All numbers of the document, at any depth, satisfy `p`. -/
def AllNumbers (p : Number → Prop) : Json → Prop
  | .number n => p n
  | .array items => ∀ d ∈ items, d.AllNumbers p
  | .object entries => ∀ e ∈ entries, e.2.AllNumbers p
  | _ => True
decreasing_by
  · have hlt := List.sizeOf_lt_of_mem ‹_ ∈ items›
    simp
    omega
  · have hlt := sizeOf_snd_lt_of_mem ‹_ ∈ entries›
    simp
    omega

theorem AllNumbers.imp {p q : Number → Prop} (h : ∀ n, p n → q n) {d : Json}
    (hd : d.AllNumbers p) : d.AllNumbers q := by
  induction d with
  | number n =>
    rw [AllNumbers] at hd ⊢
    exact h n hd
  | array items ih =>
    rw [AllNumbers] at hd ⊢
    exact fun d hmem => ih d hmem (hd d hmem)
  | object entries ih =>
    rw [AllNumbers] at hd ⊢
    exact fun e hmem => ih e hmem (hd e hmem)
  | _ => rw [AllNumbers] <;> simp

theorem depthItems_le_iff {items : List Json} {n : ℕ} :
    depthItems items ≤ n ↔ ∀ d ∈ items, d.depth ≤ n := by
  induction items with
  | nil => simp [depthItems]
  | cons d rest ih => rw [depthItems, max_le_iff, ih, List.forall_mem_cons]

theorem depthEntries_le_iff {entries : List (String × Json)} {n : ℕ} :
    depthEntries entries ≤ n ↔ ∀ e ∈ entries, e.2.depth ≤ n := by
  induction entries with
  | nil => simp [depthEntries]
  | cons e rest ih => rw [depthEntries, max_le_iff, ih, List.forall_mem_cons]

/-- An array is read back if each of its items is. -/
theorem rereadItems_eq_some_iff {depth : ℕ} {items xs : List Json} :
    rereadItems depth items = some xs ↔
      List.Forall₂ (fun d x => d.reread depth = some x) items xs := by
  induction items generalizing xs with
  | nil => simp [rereadItems, eq_comm]
  | cons d rest ih =>
    simp only [rereadItems, Option.bind_eq_some_iff, Option.map_eq_some_iff, ih,
      List.forall₂_cons_left_iff]
    exact ⟨fun ⟨x, hx, ys, hys, heq⟩ => ⟨x, ys, hx, hys, heq.symm⟩,
      fun ⟨x, ys, hx, hys, heq⟩ => ⟨x, hx, ys, hys, heq.symm⟩⟩

/-- An object is read back with its keys if each of its values is. -/
theorem rereadEntries_eq_some_iff {depth : ℕ} {entries xs : List (String × Json)} :
    rereadEntries depth entries = some xs ↔
      List.Forall₂ (fun e x => e.1 = x.1 ∧ e.2.reread depth = some x.2) entries xs := by
  induction entries generalizing xs with
  | nil => simp [rereadEntries, eq_comm]
  | cons e rest ih =>
    simp only [rereadEntries, Option.bind_eq_some_iff, Option.map_eq_some_iff, ih,
      List.forall₂_cons_left_iff]
    constructor
    · rintro ⟨x, hx, ys, hys, rfl⟩
      exact ⟨(e.1, x), ys, ⟨rfl, hx⟩, hys, rfl⟩
    · rintro ⟨⟨k, x⟩, ys, ⟨rfl, hx⟩, hys, rfl⟩
      exact ⟨x, hx, ys, hys, rfl⟩

/-- **A document is read back as itself if and only if** it does not nest too deep and each of its
numbers is read back as itself. -/
theorem reread_eq_self_iff (d : Json) (depth : ℕ) :
    d.reread depth = some d ↔
      d.depth ≤ depth ∧ d.AllNumbers fun n => n.reread = some n := by
  induction d generalizing depth with
  | number n => simp [reread, AllNumbers, Json.depth]
  | array items ih =>
    cases depth with
    | zero => simp [reread, Json.depth]
    | succ depth =>
      rw [reread, Json.depth, AllNumbers, Nat.add_le_add_iff_right, depthItems_le_iff,
        Option.map_eq_some_iff]
      simp only [array.injEq, exists_eq_right, rereadItems_eq_some_iff, List.forall₂_same]
      rw [← forall₂_and]
      exact forall₂_congr fun d hd => ih d hd depth
  | object entries ih =>
    cases depth with
    | zero => simp [reread, Json.depth]
    | succ depth =>
      rw [reread, Json.depth, AllNumbers, Nat.add_le_add_iff_right, depthEntries_le_iff,
        Option.map_eq_some_iff]
      simp only [object.injEq, exists_eq_right, rereadEntries_eq_some_iff, List.forall₂_same,
        true_and]
      rw [← forall₂_and]
      exact forall₂_congr fun e he => ih e he depth
  | _ => simp [reread, AllNumbers, Json.depth]

/-- **The text of a document is read at all if and only if** it does not nest too deep and each of
its numbers is read. -/
theorem exists_reread_iff (d : Json) (depth : ℕ) :
    (∃ x, d.reread depth = some x) ↔
      d.depth ≤ depth ∧ d.AllNumbers fun n => ∃ m, n.reread = some m := by
  induction d generalizing depth with
  | number n => simp [reread, AllNumbers, Json.depth]
  | array items ih =>
    cases depth with
    | zero => simp [reread, Json.depth]
    | succ depth =>
      rw [Json.depth, AllNumbers, Nat.add_le_add_iff_right, depthItems_le_iff, ← forall₂_and,
        ← forall₂_congr fun d hd => ih d hd depth]
      constructor
      · rintro ⟨x, hx⟩
        obtain ⟨xs, hxs, -⟩ := Option.map_eq_some_iff.1 hx
        intro d hd
        obtain ⟨y, -, hy⟩ := exists_of_mem_forall₂ (rereadItems_eq_some_iff.1 hxs).flip hd
        exact ⟨y, hy⟩
      · intro h
        obtain ⟨xs, hxs⟩ := exists_forall₂ h
        exact ⟨.array xs, Option.map_eq_some_iff.2 ⟨xs, rereadItems_eq_some_iff.2 hxs, rfl⟩⟩
  | object entries ih =>
    cases depth with
    | zero => simp [reread, Json.depth]
    | succ depth =>
      rw [Json.depth, AllNumbers, Nat.add_le_add_iff_right, depthEntries_le_iff, ← forall₂_and,
        ← forall₂_congr fun e he => ih e he depth]
      constructor
      · rintro ⟨x, hx⟩
        obtain ⟨xs, hxs, -⟩ := Option.map_eq_some_iff.1 hx
        intro e he
        obtain ⟨y, -, -, hy⟩ := exists_of_mem_forall₂ (rereadEntries_eq_some_iff.1 hxs).flip he
        exact ⟨y.2, hy⟩
      · intro h
        have hvalues : ∀ e ∈ entries, ∃ x : String × Json,
            e.1 = x.1 ∧ e.2.reread depth = some x.2 := by
          intro e he
          obtain ⟨x, hx⟩ := h e he
          exact ⟨(e.1, x), rfl, hx⟩
        obtain ⟨xs, hxs⟩ := exists_forall₂ hvalues
        exact ⟨.object xs, Option.map_eq_some_iff.2 ⟨xs, rereadEntries_eq_some_iff.2 hxs, rfl⟩⟩
  | _ => simp [reread, AllNumbers, Json.depth]

/-- Reading back repeats no key that was not repeated. -/
theorem KeysDistinct.of_reread {d x : Json} {depth : ℕ} (hd : d.KeysDistinct)
    (h : d.reread depth = some x) : x.KeysDistinct := by
  induction d generalizing x depth with
  | array items ih =>
    cases depth with
    | zero => cases h
    | succ depth =>
      obtain ⟨xs, hxs, rfl⟩ := Option.map_eq_some_iff.1 h
      rw [KeysDistinct] at hd ⊢
      intro y hy
      obtain ⟨e, he, hey⟩ := exists_of_mem_forall₂ (rereadItems_eq_some_iff.1 hxs) hy
      exact ih e he (hd e he) hey
  | object entries ih =>
    cases depth with
    | zero => cases h
    | succ depth =>
      obtain ⟨xs, hxs, rfl⟩ := Option.map_eq_some_iff.1 h
      have hentries := rereadEntries_eq_some_iff.1 hxs
      rw [KeysDistinct] at hd ⊢
      have hkeys : entries.map Prod.fst = xs.map Prod.fst := by
        rw [← List.forall₂_eq_eq_eq, List.forall₂_map_left_iff, List.forall₂_map_right_iff]
        exact hentries.imp fun _ _ h => h.1
      refine ⟨hkeys ▸ hd.1, fun y hy => ?_⟩
      obtain ⟨e, he, -, hey⟩ := exists_of_mem_forall₂ hentries hy
      exact ih e he (hd.2 e he) hey
  | number n =>
    obtain ⟨m, -, rfl⟩ := Option.map_eq_some_iff.1 h
    simp [KeysDistinct]
  | _ =>
    obtain rfl := Option.some.inj h
    exact hd

namespace Read

/-! ## Reading one after the other -/

/-- One value and the values behind it. -/
theorem toOption_one_more {α β : Type} {x : Except Failure (α × List Char)}
    (more : List Char → Except Failure (List β × List Char)) {y : Option α}
    {ys : Option (List β)} {mid rest : List Char} (hx : x.toOption = y.map (·, mid))
    (hmore : (more mid).toOption = ys.map (·, rest)) (f : α → β) :
    (x >>= fun p => more p.2 >>= fun q => .ok (f p.1 :: q.1, q.2)).toOption =
      (y.bind fun a => ys.map (f a :: ·)).map (·, rest) := by
  match x, y with
  | .error _, none => rfl
  | .ok _, some a =>
    obtain rfl := Option.some.inj hx
    show ((more mid) >>= fun q => Except.ok (f a :: q.1, q.2)).toOption =
      (ys.map (f a :: ·)).map (·, rest)
    cases hm : more mid with
    | error e =>
      rw [hm] at hmore
      obtain rfl := Option.map_eq_none_iff.1 hmore.symm
      rfl
    | ok q =>
      rw [hm] at hmore
      obtain ⟨as, rfl, rfl⟩ := Option.map_eq_some_iff.1 hmore.symm
      rfl

theorem skipBlank_cons {c : Char} (hc : isBlank c = false) (s : List Char) :
    skipBlank (c :: s) = c :: s := by
  rw [skipBlank, List.dropWhile_cons_of_neg (by simp [hc])]

/-- The text of a document starts with no blank and does not close an array. -/
theorem chars_eq_cons (d : Json) :
    ∃ c s, d.chars = c :: s ∧ isBlank c = false ∧ c ≠ ']' := by
  match d with
  | .null | .bool true | .bool false | .string _ | .array [] | .array (_ :: _) | .object []
  | .object (_ :: _) => exact ⟨_, _, rfl, by decide, by decide⟩
  | .number n =>
    obtain ⟨c, s, hn, hc⟩ := text_eq_cons n
    refine ⟨c, s, hn, ?_⟩
    rcases hc with rfl | hc
    · decide
    · have hne (e : Char) (he : e.isDigit = false) : c ≠ e := ne_of_class hc e he
      refine ⟨?_, hne _ (by decide)⟩
      simp [isBlank, hne]

/-- A key is read with its colon. -/
theorem exists_key_eq_ok (k : String) (rest : List Char) :
    ∃ s, quote k ++ ':' :: rest = '"' :: s ∧ key ('"' :: s) = .ok (k, rest) := by
  refine ⟨k.toList.flatMap escape ++ '"' :: ':' :: rest, by simp [quote], ?_⟩
  have hblank : isBlank ':' = false := by decide
  simp only [key, string_quote, bind, Except.bind, colon, skipBlank_cons hblank, if_true]

/-- There are fewer items than characters. -/
theorem length_lt_charsItems (items : List Json) (rest : List Char) :
    items.length < (charsItems items ++ rest).length + 1 := by
  induction items with
  | nil => simp [charsItems]
  | cons d items ih =>
    simp only [charsItems, List.length_cons, List.length_append] at ih ⊢
    omega

/-- The fuel that a reader takes from the length of a text is enough for the entries in it. -/
theorem length_lt_charsEntries (entries : List (String × Json)) (rest : List Char) :
    entries.length < (charsEntries entries ++ rest).length + 1 := by
  induction entries with
  | nil => simp [charsEntries]
  | cons e entries ih =>
    obtain ⟨k, d⟩ := e
    simp only [charsEntries, List.length_cons, List.length_append] at ih ⊢
    omega

/-- What follows an item of an array, or the value of an entry, ends a number. -/
theorem endsNumber_charsItems (items : List Json) (rest : List Char) :
    EndsNumber (charsItems items ++ rest) := by
  cases items with
  | nil =>
    intro c hc
    obtain rfl := Option.some.inj hc
    decide
  | cons d items =>
    intro c hc
    obtain rfl := Option.some.inj hc
    decide

theorem endsNumber_charsEntries (entries : List (String × Json)) (rest : List Char) :
    EndsNumber (charsEntries entries ++ rest) := by
  match entries with
  | [] | (_, _) :: _ =>
    intro c hc
    obtain rfl := Option.some.inj hc
    decide

/-! ## Items and entries -/

/-- The text of the document is read up to its end, whatever follows it. -/
def ReadsBack (depth : ℕ) (d : Json) : Prop :=
  ∀ rest, EndsNumber rest →
    (value depth (d.chars ++ rest)).toOption = (d.reread depth).map (·, rest)

theorem moreItems_charsItems {depth : ℕ} {items : List Json} (h : ∀ d ∈ items, ReadsBack depth d)
    {fuel : ℕ} (hfuel : items.length < fuel) (rest : List Char) :
    (moreItems (value depth) fuel (charsItems items ++ rest)).toOption =
      (rereadItems depth items).map (·, rest) := by
  obtain ⟨fuel, rfl⟩ : ∃ k, fuel = k + 1 := Nat.exists_eq_succ_of_ne_zero (by omega)
  induction items generalizing fuel with
  | nil => rfl
  | cons d items ih =>
    rw [List.forall_mem_cons] at h
    rw [List.length_cons] at hfuel
    obtain ⟨fuel, rfl⟩ : ∃ k, fuel = k + 1 := Nat.exists_eq_succ_of_ne_zero (by omega)
    have hitem := h.1 _ (endsNumber_charsItems items rest)
    have hmore := ih h.2 fuel (by omega)
    obtain ⟨c, s, hd, hblank, hclose⟩ := chars_eq_cons d
    rw [hd, List.cons_append] at hitem
    rw [charsItems, hd, List.cons_append, List.append_assoc, List.cons_append, moreItems,
      skipBlank_cons (by decide)]
    simp only [skipBlank_cons hblank, if_neg hclose, if_neg (by decide : ¬ ',' = ']'), if_true]
    exact toOption_one_more _ hitem hmore id

/-- The items of an array are read back from its text, whatever stands behind it. -/
theorem items_chars {depth : ℕ} {ds : List Json} (h : ∀ d ∈ ds, ReadsBack depth d)
    {cs : List Char} (hcs : (array ds).chars = '[' :: cs) (rest : List Char) :
    (items (value depth) (cs ++ rest)).toOption = (rereadItems depth ds).map (·, rest) := by
  cases ds with
  | nil =>
    obtain rfl := (List.cons.inj hcs).2
    rfl
  | cons d ds =>
    obtain rfl := (List.cons.inj hcs).2
    rw [List.forall_mem_cons] at h
    have hitem := h.1 _ (endsNumber_charsItems ds rest)
    have hmore := moreItems_charsItems h.2 (length_lt_charsItems ds rest) rest
    obtain ⟨c, s, hd, hblank, hclose⟩ := chars_eq_cons d
    rw [hd, List.cons_append] at hitem
    rw [hd, List.append_assoc, List.cons_append, items]
    simp only [skipBlank_cons hblank, if_neg hclose]
    exact toOption_one_more (fun s => moreItems (value depth) (s.length + 1) s) hitem hmore id

theorem moreEntries_charsEntries {depth : ℕ} {es : List (String × Json)}
    (h : ∀ e ∈ es, ReadsBack depth e.2) {fuel : ℕ} (hfuel : es.length < fuel) (rest : List Char) :
    (moreEntries (value depth) fuel (charsEntries es ++ rest)).toOption =
      (rereadEntries depth es).map (·, rest) := by
  obtain ⟨fuel, rfl⟩ : ∃ k, fuel = k + 1 := Nat.exists_eq_succ_of_ne_zero (by omega)
  induction es generalizing fuel with
  | nil => rfl
  | cons e es ih =>
    obtain ⟨k, d⟩ := e
    rw [List.forall_mem_cons] at h
    rw [List.length_cons] at hfuel
    obtain ⟨fuel, rfl⟩ : ∃ k, fuel = k + 1 := Nat.exists_eq_succ_of_ne_zero (by omega)
    have hitem := h.1 _ (endsNumber_charsEntries es rest)
    have hmore := ih h.2 fuel (by omega)
    obtain ⟨s, hquote, hkey⟩ := exists_key_eq_ok k (d.chars ++ (charsEntries es ++ rest))
    have hchars : charsEntries ((k, d) :: es) ++ rest = ',' :: '"' :: s := by
      simp [charsEntries, ← hquote]
    rw [hchars, moreEntries, skipBlank_cons (by decide)]
    simp only [skipBlank_cons (by decide : isBlank '"' = false), if_neg (by decide : ¬ ',' = '}'),
      if_neg (by decide : ¬ '"' = '}'), if_true, hkey]
    exact toOption_one_more _ hitem hmore (Prod.mk k)

/-- The entries of an object are read back from its text, whatever stands behind it. -/
theorem entries_chars {depth : ℕ} {es : List (String × Json)} (h : ∀ e ∈ es, ReadsBack depth e.2)
    {cs : List Char} (hcs : (object es).chars = '{' :: cs) (rest : List Char) :
    (entries (value depth) (cs ++ rest)).toOption = (rereadEntries depth es).map (·, rest) := by
  cases es with
  | nil =>
    obtain rfl := (List.cons.inj hcs).2
    rfl
  | cons e es =>
    obtain ⟨k, d⟩ := e
    obtain rfl := (List.cons.inj hcs).2
    rw [List.forall_mem_cons] at h
    have hitem := h.1 _ (endsNumber_charsEntries es rest)
    have hmore := moreEntries_charsEntries h.2 (length_lt_charsEntries es rest) rest
    obtain ⟨s, hquote, hkey⟩ := exists_key_eq_ok k (d.chars ++ (charsEntries es ++ rest))
    have hchars : quote k ++ ':' :: (d.chars ++ charsEntries es) ++ rest = '"' :: s := by
      simp [← hquote]
    rw [hchars, entries]
    simp only [skipBlank_cons (by decide : isBlank '"' = false), if_neg (by decide : ¬ '"' = '}'),
      hkey]
    exact toOption_one_more (fun s => moreEntries (value depth) (s.length + 1) s) hitem hmore
      (Prod.mk k)

/-! ## Documents -/

theorem toOption_map_bind {α β : Type} {x : Except Failure (α × List Char)} {y : Option α}
    {rest : List Char} (h : x.toOption = y.map (·, rest)) (f : α → β) :
    (x >>= fun p => .ok (f p.1, p.2)).toOption = (y.map f).map (·, rest) := by
  match x, y with
  | .error _, none => rfl
  | .ok _, some a =>
    obtain rfl := Option.some.inj h
    rfl

theorem value_array (depth : ℕ) (s : List Char) : value (depth + 1) ('[' :: s) =
    items (value depth) s >>= fun p => .ok (.array p.1, p.2) := by
  rw [value.eq_def, skipBlank_cons (by decide)]
  rfl

theorem value_object (depth : ℕ) (s : List Char) : value (depth + 1) ('{' :: s) =
    entries (value depth) s >>= fun p => .ok (.object p.1, p.2) := by
  rw [value.eq_def, skipBlank_cons (by decide)]
  rfl

theorem value_number {depth : ℕ} {c : Char} (hc : c = '-' ∨ c.isDigit = true) (s : List Char) :
    value depth (c :: s) = number (c :: s) >>= fun p => .ok (.number p.1, p.2) := by
  have hne (e : Char) (he : e ≠ '-') (he' : e.isDigit = false) : c ≠ e := by
    rintro rfl
    rcases hc with rfl | hc
    · exact he rfl
    · rw [he'] at hc
      cases hc
  have hblank : isBlank c = false := by simp [isBlank, hne]
  rw [value.eq_def, skipBlank_cons hblank]
  simp only [if_neg (hne '"' (by decide) (by decide)), if_neg (hne '[' (by decide) (by decide)),
    if_neg (hne '{' (by decide) (by decide)), if_neg (hne 'n' (by decide) (by decide)),
    if_neg (hne 't' (by decide) (by decide)), if_neg (hne 'f' (by decide) (by decide)), if_pos hc]

/-- **The text of a document is read up to its end**, whatever follows it. -/
theorem value_chars (d : Json) (depth : ℕ) : ReadsBack depth d := by
  -- by induction on the document; each container reads its members one level further down
  induction d generalizing depth with
  | null =>
    intro rest hrest
    rw [value.eq_def]
    rfl
  | bool b =>
    intro rest hrest
    rw [value.eq_def]
    cases b <;> rfl
  | string s =>
    intro rest hrest
    have hchars : (Json.string s).chars ++ rest =
        '"' :: (s.toList.flatMap escape ++ '"' :: rest) := by
      simp [chars, quote]
    rw [hchars, value.eq_def, skipBlank_cons (by decide)]
    simp only [if_true, string_quote]
    rfl
  | number n =>
    intro rest hrest
    have hnumber := toOption_map_bind (number_text n hrest) Json.number
    obtain ⟨c, s, hn, hc⟩ := text_eq_cons n
    rw [chars, reread, ← hnumber, hn, List.cons_append, value_number hc]
  | array ds ih =>
    intro rest hrest
    obtain ⟨cs, hcs⟩ : ∃ cs, (array ds).chars = '[' :: cs := by
      cases ds with
      | nil => exact ⟨_, rfl⟩
      | cons d ds => exact ⟨_, rfl⟩
    rw [hcs, List.cons_append]
    cases depth with
    | zero =>
      rw [value.eq_def, skipBlank_cons (by decide)]
      rfl
    | succ depth =>
      rw [value_array, reread]
      exact toOption_map_bind (items_chars (fun d hd => ih d hd depth) hcs rest) Json.array
  | object es ih =>
    intro rest hrest
    obtain ⟨cs, hcs⟩ : ∃ cs, (object es).chars = '{' :: cs := by
      rcases es with _ | ⟨⟨k, d⟩, es⟩
      · exact ⟨_, rfl⟩
      · exact ⟨_, rfl⟩
    rw [hcs, List.cons_append]
    cases depth with
    | zero =>
      rw [value.eq_def, skipBlank_cons (by decide)]
      rfl
    | succ depth =>
      rw [value_object, reread]
      exact toOption_map_bind (entries_chars (fun e he => ih e he depth) hcs rest) Json.object

end Read

/-- **Reading back the text of a document.** -/
theorem toOption_read_render (d : Json) : (read d.render).toOption = d.reread maxDepth := by
  have hvalue := Read.value_chars d maxDepth [] Read.endsNumber_nil
  rw [List.append_nil] at hvalue
  rw [read, readTo, toList_render]
  cases hx : Read.value maxDepth d.chars with
  | error f =>
    rw [hx] at hvalue
    exact (Option.map_eq_none_iff.1 hvalue.symm).symm
  | ok p =>
    rw [hx] at hvalue
    obtain ⟨x, hd, rfl⟩ := Option.map_eq_some_iff.1 hvalue.symm
    rw [hd]
    rfl

/-! ## Documents of integers -/

/-- All numbers are integers, and arrays and objects nest as deep as a reader follows them. -/
def Integral (d : Json) : Prop := d.AllNumbers Number.IsWhole ∧ d.depth ≤ maxDepth

theorem Integral.read_render {d : Json} (h : d.Integral) : read d.render = .ok d := by
  have hreread : d.reread maxDepth = some d := by
    refine (reread_eq_self_iff _ _).2 ⟨h.2, h.1.imp ?_⟩
    rintro n ⟨w, rfl⟩
    exact Read.reread_whole w
  have hread := toOption_read_render d
  rw [hreread] at hread
  cases hd : read d.render with
  | error f =>
    rw [hd] at hread
    cases hread
  | ok d' =>
    rw [hd] at hread
    rw [Option.some.inj hread]

/-- Two such documents with one text are one document. -/
theorem Integral.eq_of_render_eq {d d' : Json} (h : d.Integral) (h' : d'.Integral)
    (heq : d'.render = d.render) : d' = d := by
  have hread := h'.read_render
  rw [heq, h.read_render] at hread
  exact (Except.ok.inj hread).symm

theorem PartOf.allNumbers {part d : Json} (h : part.PartOf d) {p : Number → Prop}
    (hd : d.AllNumbers p) : part.AllNumbers p := by
  induction h with
  | refl => exact hd
  | item hmem _ ih =>
    rw [AllNumbers] at hd
    exact ih (hd _ hmem)
  | value hmem _ ih =>
    rw [AllNumbers] at hd
    exact ih (hd _ hmem)

/-- A part of a document nests no deeper than the document. -/
theorem PartOf.depth_le {part d : Json} (h : part.PartOf d) : part.depth ≤ d.depth := by
  induction h with
  | refl => exact le_rfl
  | item hmem _ ih =>
    rw [Json.depth]
    exact ih.trans ((depthItems_le_iff.1 le_rfl _ hmem).trans (Nat.le_succ _))
  | value hmem _ ih =>
    rw [Json.depth]
    exact ih.trans ((depthEntries_le_iff.1 le_rfl _ hmem).trans (Nat.le_succ _))

theorem PartOf.integral {part d : Json} (h : part.PartOf d) (hd : d.Integral) : part.Integral :=
  ⟨h.allNumbers hd.1, h.depth_le.trans hd.2⟩

end Json

/-- The value that an error carries is the text of the document that it quotes. -/
theorem SelectorError.Quotes.value_mem_fields_iff {e : SelectorError} {d : Json} (h : e.Quotes d)
    (text : String) : ("value", text) ∈ e.fields ↔ text = d.render := by
  cases h <;> simp [fields]

namespace Json

/-- **A document of integers is read back as itself**, with the order of its entries and the keys
they repeat. So its text stands for no other such document. And the text that an error of a selector
carries stands for one part of the document only, the one at fault. -/
theorem render_reads_back (d : Json) (hnumbers : d.AllNumbers Number.IsWhole)
    (hdepth : d.depth ≤ maxDepth) :
    read d.render = .ok d ∧
      (∀ d' : Json, d'.AllNumbers Number.IsWhole → d'.depth ≤ maxDepth → d'.render = d.render →
        d' = d) ∧
      ∀ e text, Selector.ofJson d = .error e → ("value", text) ∈ e.fields →
        ∃ part : Json, part.PartOf d ∧ e.Quotes part ∧ text = part.render ∧ read text = .ok part ∧
          ∀ d' : Json, d'.AllNumbers Number.IsWhole → d'.depth ≤ maxDepth → d'.render = text →
            d' = part := by
  have hd : d.Integral := ⟨hnumbers, hdepth⟩
  refine ⟨hd.read_render, fun d' hn' hd' => hd.eq_of_render_eq ⟨hn', hd'⟩, ?_⟩
  intro e text he hvalue
  rcases Selector.blames_of_ofJson he with ⟨key, rfl, -⟩ | ⟨part, hpart, hquotes⟩
  · -- a repeated key is named, no document is quoted
    simp [SelectorError.fields] at hvalue
  · obtain rfl := (hquotes.value_mem_fields_iff text).1 hvalue
    have hintegral := hpart.integral hd
    exact ⟨part, hpart, hquotes, rfl, hintegral.read_render, fun d' hn' hd' =>
      hintegral.eq_of_render_eq ⟨hn', hd'⟩⟩

/-- A repeated key with a quote, a control character and the last ASCII character in it; the error
is about an element of a group and carries the largest integer. -/
theorem render_reads_back_repeated :
    read (Json.object [("\"\x00\x7f", .null), ("\"\x00\x7f", .number (.whole
          ⟨-0x8000000000000000, by decide, by decide⟩)),
        ("$or", .array [.number (.whole ⟨0xffffffffffffffff, by decide, by decide⟩)])]).render =
      .ok (.object [("\"\x00\x7f", .null), ("\"\x00\x7f", .number (.whole
          ⟨-0x8000000000000000, by decide, by decide⟩)),
        ("$or", .array [.number (.whole ⟨0xffffffffffffffff, by decide, by decide⟩)])]) ∧
    ∃ part : Json, part.PartOf (.object [("$or",
        .array [.number (.whole ⟨0xffffffffffffffff, by decide, by decide⟩)])]) ∧
      read "18446744073709551615" = .ok part := by
  have herror : Selector.ofJson (.object [("$or",
      .array [.number (.whole ⟨0xffffffffffffffff, by decide, by decide⟩)])]) =
      .error (.invalidSelectorElement "18446744073709551615") := by
    cbv
  have hfirst := render_reads_back (.object [("\"\x00\x7f", .null), ("\"\x00\x7f", .number (.whole
      ⟨-0x8000000000000000, by decide, by decide⟩)),
    ("$or", .array [.number (.whole ⟨0xffffffffffffffff, by decide, by decide⟩)])])
    (by simp [AllNumbers, Number.IsWhole]) (by decide)
  have hsecond := render_reads_back (.object [("$or",
    .array [.number (.whole ⟨0xffffffffffffffff, by decide, by decide⟩)])])
    (by simp [AllNumbers, Number.IsWhole]) (by decide)
  obtain ⟨part, hpart, -, -, hread, -⟩ := hsecond.2.2 _ _ herror List.mem_cons_self
  exact ⟨hfirst.1, part, hpart, hread⟩

end Json

end DocSelect
