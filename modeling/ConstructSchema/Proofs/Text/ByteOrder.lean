import Mathlib.Tactic.SplitIfs

/-!
The order of texts is the order of their bytes.

Texts are compared by their characters. In UTF-8 a smaller character has a smaller code, whatever
bytes follow it (`encode_lt`), so a comparison byte by byte has the same outcome
(`lt_iff_bytes_lt`).
-/

namespace ConstructSchema

/-- The bytes of a text in UTF-8. -/
def bytes (s : String) : List UInt8 := s.toByteArray.data.toList

theorem bytes_eq_flatMap (s : String) : bytes s = s.toList.flatMap String.utf8EncodeChar := by
  rw [bytes, ← String.utf8Encode_toList, List.utf8Encode, List.toList_data_toByteArray]

/-- The first byte in which the codes of two characters differ decides, and it is the smaller one in
the code of the smaller character. -/
theorem encode_lt {c d : Char} (h : c < d) (s t : List UInt8) :
    String.utf8EncodeChar c ++ s < String.utf8EncodeChar d ++ t := by
  have hlt : c.val.toNat < d.val.toNat := h
  have hd : d.val.toNat < 1114112 := by
    rcases d.valid with hlow | ⟨_, hhigh⟩
    · exact Nat.lt_trans hlow (by decide)
    · exact hhigh
  unfold String.utf8EncodeChar
  generalize c.val.toNat = x at *
  generalize d.val.toNat = y at *
  have hrest : ∀ z, (z % 64 + 128) % 256 = z % 64 + 128 := by omega
  simp only [apply_ite (· ++ s), apply_ite (· ++ t), List.cons_append, List.nil_append]
  split_ifs
  all_goals simp only [List.cons_lt_cons_iff, UInt8.lt_iff_toNat_lt, ← UInt8.toNat_inj,
    UInt8.toNat_ofNat', Nat.reducePow, hrest]
  all_goals try omega
  -- Two codes of four bytes are left: their first bytes do not wrap round.
  have hx : (x / 262144 % 8 + 240) % 256 = x / 262144 + 240 := by omega
  have hy : (y / 262144 % 8 + 240) % 256 = y / 262144 + 240 := by omega
  rw [hx, hy]
  omega

theorem flatMap_encode_lt {l m : List Char} (h : l < m) :
    l.flatMap String.utf8EncodeChar < m.flatMap String.utf8EncodeChar := by
  induction h with
  | nil =>
    rename_i d rest
    rw [List.flatMap_nil, List.flatMap_cons]
    cases hcode : String.utf8EncodeChar d with
    | nil => exact absurd hcode String.utf8EncodeChar_ne_nil
    | cons first further => exact List.Lex.nil
  | cons _ ih =>
    rw [List.flatMap_cons, List.flatMap_cons]
    exact List.append_left_lt ih
  | rel hlt =>
    rw [List.flatMap_cons, List.flatMap_cons]
    exact encode_lt hlt _ _

/-- Texts are in the order of their bytes. -/
theorem lt_iff_bytes_lt {a b : String} : a < b ↔ bytes a < bytes b := by
  have hmono : ∀ {a b : String}, a < b → bytes a < bytes b := by
    intro a b h
    rw [bytes_eq_flatMap, bytes_eq_flatMap]
    exact flatMap_encode_lt h
  constructor
  · exact hmono
  · intro h
    apply Decidable.byContradiction
    intro hnot
    have hne : b ≠ a := by
      rintro rfl
      exact List.lt_irrefl _ h
    have hgt : b < a := Std.lt_of_le_of_ne (String.not_lt.1 hnot) hne
    exact List.lt_irrefl _ (List.lt_trans h (hmono hgt))

theorem le_iff_bytes_le {a b : String} : a ≤ b ↔ bytes a ≤ bytes b := by
  rw [← String.not_lt, ← List.not_lt, lt_iff_bytes_lt]

end ConstructSchema
