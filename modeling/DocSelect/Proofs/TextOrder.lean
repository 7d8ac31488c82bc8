import DocSelect.Text.Utf8
import Mathlib.Data.String.Basic
/-!
# The order of texts

Keys are compared byte by byte. A character that comes first has an encoding whose first byte that
differs comes first, so the bytes order texts as their characters do, and texts are compared by
characters.

* `compareText_eq_lt_iff` : texts are compared as their characters are;
* `utf8Bytes_lt_iff` : **the bytes of the encoding order texts as the characters do**.
-/

namespace DocSelect

/-! ## The order of characters -/

theorem compareChars_eq_lt_iff {s t : List Char} : compareChars s t = .lt ↔ s < t := by
  induction s generalizing t with
  | nil =>
    cases t with
    | nil => simp [compareChars]
    | cons b t => simp [compareChars]
  | cons a s ih =>
    cases t with
    | nil => simp [compareChars]
    | cons b t =>
      rw [compareChars, List.cons_lt_cons_iff]
      split
      · next hlt => simp [hlt]
      · next hge =>
        split
        · next hgt => simp [hge, hgt.ne']
        · next hle =>
          obtain rfl : a = b := le_antisymm (not_lt.1 hle) (not_lt.1 hge)
          simp [ih]

/-- Texts are compared as their characters are. -/
theorem compareText_eq_lt_iff {a b : String} : compareText a b = .lt ↔ a < b :=
  compareChars_eq_lt_iff

/-! ## The order of bytes -/

theorem utf8BytesOf_ne_nil (c : Char) : utf8BytesOf c ≠ [] := by
  unfold utf8BytesOf
  simp only
  split_ifs <;> exact List.cons_ne_nil _ _

theorem toNat_lt_of_char (c : Char) : c.toNat < 0x110000 := by
  have h := c.valid
  simp only [UInt32.isValidChar, Nat.isValidChar] at h
  show c.val.toNat < _
  omega

/-- The bytes of a character that comes first come first, whatever follows. -/
theorem utf8BytesOf_append_lt {c d : Char} (h : c < d) (x y : List UInt8) :
    utf8BytesOf c ++ x < utf8BytesOf d ++ y := by
  have hlt : c.toNat < d.toNat := h
  have hc := toNat_lt_of_char c
  have hd := toNat_lt_of_char d
  -- the pieces of six bits, from the last one on
  have hsix (n : ℕ) : n / 4096 = n / 64 / 64 ∧ n / 262144 = n / 64 / 64 / 64 := by omega
  unfold utf8BytesOf
  simp only [hsix]
  generalize c.toNat = m at *
  generalize d.toNat = n at *
  split_ifs <;>
    · simp only [List.cons_append, List.nil_append, List.cons_lt_cons_iff, UInt8.lt_iff_toNat_lt,
        ← UInt8.toNat_inj, Nat.toUInt8_eq, UInt8.toNat_ofNat']
      omega

/-- The bytes of the first character that differs decide. -/
theorem utf8Bytes_lt {s t : List Char} (h : s < t) : utf8Bytes s < utf8Bytes t := by
  induction s generalizing t with
  | nil =>
    cases t with
    | nil => exact absurd h (lt_irrefl _)
    | cons b t =>
      obtain ⟨x, xs, hx⟩ := List.exists_cons_of_ne_nil (utf8BytesOf_ne_nil b)
      rw [utf8Bytes, utf8Bytes, List.flatMap_cons, hx]
      exact List.nil_lt_cons x _
  | cons a s ih =>
    cases t with
    | nil => exact absurd h (List.not_lt_nil _)
    | cons b t =>
      rw [utf8Bytes, utf8Bytes, List.flatMap_cons, List.flatMap_cons]
      rcases List.cons_lt_cons_iff.1 h with hab | ⟨rfl, hst⟩
      · exact utf8BytesOf_append_lt hab _ _
      · exact List.append_left_lt (ih hst)

/-- **The bytes of the encoding order texts as the characters do.** -/
theorem utf8Bytes_lt_iff {s t : List Char} : utf8Bytes s < utf8Bytes t ↔ s < t := by
  refine ⟨fun h => ?_, utf8Bytes_lt⟩
  rcases lt_trichotomy s t with hlt | rfl | hgt
  · exact hlt
  · exact absurd h (List.lt_irrefl _)
  · exact absurd (utf8Bytes_lt hgt) (List.lt_asymm h)

end DocSelect
