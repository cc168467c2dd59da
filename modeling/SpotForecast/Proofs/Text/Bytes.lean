import Mathlib.Data.String.Basic

/-!
# The order of bytes

Texts are ordered by their characters.  In UTF-8 a greater character has greater bytes, and no
encoding of a character begins another one, so the bytes of two texts are in the same order as the
texts themselves (`utf8_lt_iff`).
-/

namespace SpotForecast.Text

/-- The bytes of characters in UTF-8. -/
def encode (chars : List Char) : List UInt8 :=
  chars.flatMap String.utf8EncodeChar

/-- The bytes of a text in UTF-8. -/
def utf8 (s : String) : List UInt8 :=
  encode s.toList

/-- The bytes are those that the text is stored as. -/
theorem utf8_toByteArray (s : String) : (utf8 s).toByteArray = s.toByteArray := by
  rw [utf8, encode, ← List.utf8Encode, String.utf8Encode_toList]

/-- A byte of an encoding is a mark with some bits of the character under it. -/
theorem toNat_marked (n bits mark : Nat) (hbits : 0 < bits) (hmark : mark + bits ≤ 256) :
    (UInt8.ofNat (n % bits + mark)).toNat = n % bits + mark := by
  have hlt : n % bits < bits := Nat.mod_lt n hbits
  rw [UInt8.toNat_ofNat']
  exact Nat.mod_eq_of_lt (by omega)

/-- Characters end with the last plane. -/
theorem toNat_val_lt (c : Char) : c.val.toNat < 0x110000 := by
  have hvalid := c.valid
  simp only [UInt32.isValidChar, Nat.isValidChar] at hvalid
  omega

/-- The bytes of a character, by its range. -/
theorem utf8EncodeChar_cases (c : Char) :
    (c.val.toNat ≤ 0x7f ∧ String.utf8EncodeChar c = [UInt8.ofNat c.val.toNat]) ∨
      (0x7f < c.val.toNat ∧ c.val.toNat ≤ 0x7ff ∧
        String.utf8EncodeChar c = [UInt8.ofNat (c.val.toNat / 64 % 0x20 + 0xc0),
          UInt8.ofNat (c.val.toNat % 0x40 + 0x80)]) ∨
      (0x7ff < c.val.toNat ∧ c.val.toNat ≤ 0xffff ∧
        String.utf8EncodeChar c = [UInt8.ofNat (c.val.toNat / 4096 % 0x10 + 0xe0),
          UInt8.ofNat (c.val.toNat / 64 % 0x40 + 0x80), UInt8.ofNat (c.val.toNat % 0x40 + 0x80)]) ∨
      (0xffff < c.val.toNat ∧ c.val.toNat < 0x110000 ∧
        String.utf8EncodeChar c = [UInt8.ofNat (c.val.toNat / 262144 % 0x08 + 0xf0),
          UInt8.ofNat (c.val.toNat / 4096 % 0x40 + 0x80),
          UInt8.ofNat (c.val.toNat / 64 % 0x40 + 0x80),
          UInt8.ofNat (c.val.toNat % 0x40 + 0x80)]) := by
  rw [String.utf8EncodeChar]
  split
  · rename_i hone
    exact Or.inl ⟨hone, rfl⟩
  · rename_i hone
    split
    · rename_i htwo
      exact Or.inr (Or.inl ⟨by omega, htwo, rfl⟩)
    · rename_i htwo
      split
      · rename_i hthree
        exact Or.inr (Or.inr (Or.inl ⟨by omega, hthree, rfl⟩))
      · exact Or.inr (Or.inr (Or.inr ⟨by omega, toNat_val_lt c, rfl⟩))

/-- A smaller character has smaller bytes, whatever follows. -/
theorem utf8EncodeChar_append_lt {c d : Char} (h : c < d) (l m : List UInt8) :
    String.utf8EncodeChar c ++ l < String.utf8EncodeChar d ++ m := by
  have hval : c.val.toNat < d.val.toNat := h
  have hdiv : ∀ n : Nat, n < 0x110000 → n / 64 / 64 = n / 4096 ∧
      n / 4096 / 64 = n / 262144 ∧ n / 262144 % 8 = n / 262144 := by omega
  have hcdiv := hdiv c.val.toNat (toNat_val_lt c)
  have hddiv := hdiv d.val.toNat (toNat_val_lt d)
  rcases utf8EncodeChar_cases c with
      ⟨hc, hcs⟩ | ⟨hc, hc', hcs⟩ | ⟨hc, hc', hcs⟩ | ⟨hc, hc', hcs⟩ <;>
    rcases utf8EncodeChar_cases d with
      ⟨hd, hds⟩ | ⟨hd, hd', hds⟩ | ⟨hd, hd', hds⟩ | ⟨hd, hd', hds⟩ <;>
    rw [hcs, hds] <;>
    simp only [List.cons_append, List.nil_append, List.cons_lt_cons_iff, UInt8.lt_iff_toNat_lt,
      ← UInt8.toNat_inj, toNat_marked _ _ _ (by decide : 0 < 0x40) (by decide : 0x80 + 0x40 ≤ 256),
      toNat_marked _ _ _ (by decide : 0 < 0x20) (by decide : 0xc0 + 0x20 ≤ 256),
      toNat_marked _ _ _ (by decide : 0 < 0x10) (by decide : 0xe0 + 0x10 ≤ 256),
      toNat_marked _ _ _ (by decide : 0 < 0x08) (by decide : 0xf0 + 0x08 ≤ 256),
      UInt8.toNat_ofNat'] <;> omega

/-- Nothing is before the bytes of a character. -/
theorem nil_lt_utf8EncodeChar_append (c : Char) (l : List UInt8) :
    [] < String.utf8EncodeChar c ++ l := by
  cases h : String.utf8EncodeChar c with
  | nil => exact absurd h String.utf8EncodeChar_ne_nil
  | cons b rest => exact List.nil_lt_cons b (rest ++ l)

/-- What two lists begin with alike does not count. -/
theorem append_lt_append_left_iff {α : Type} [LT α] [Std.Irrefl fun a b : α => a < b]
    (p l m : List α) : p ++ l < p ++ m ↔ l < m := by
  induction p with
  | nil => rfl
  | cons b rest ih =>
      rw [List.cons_append, List.cons_append, List.cons_lt_cons_iff, ih]
      simp [Std.Irrefl.irrefl]

/-- Smaller characters have smaller bytes. -/
theorem encode_lt_of_lt {l m : List Char} (h : l < m) : encode l < encode m := by
  induction h with
  | @nil d m => exact nil_lt_utf8EncodeChar_append d _
  | @rel c d l m h => exact utf8EncodeChar_append_lt h _ _
  | @cons c l m _ ih => exact (append_lt_append_left_iff _ _ _).mpr ih

/-- **Byte order.**  A text comes before another one exactly if its bytes do. -/
theorem utf8_lt_iff {a b : String} : utf8 a < utf8 b ↔ a < b := by
  constructor
  · intro h
    rcases lt_trichotomy a b with hlt | rfl | hgt
    · exact hlt
    · exact absurd h (List.lt_irrefl _)
    · exact absurd h (List.lt_asymm (encode_lt_of_lt hgt))
  · exact fun h => encode_lt_of_lt h

theorem utf8_le_iff {a b : String} : utf8 a ≤ utf8 b ↔ a ≤ b := by
  rw [← List.not_lt, ← not_lt, utf8_lt_iff]

end SpotForecast.Text
