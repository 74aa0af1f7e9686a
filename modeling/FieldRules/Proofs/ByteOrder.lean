import Mathlib.Data.List.Lex

/-! The order of texts is the order of their bytes.

Texts compare by the code points of their characters. Written as bytes they compare the
same (`Text.bytes_lt_iff`): of two characters the smaller one has the smaller byte where
their encodings first differ, and neither encoding begins with the other. -/
namespace FieldRules.Text

def bytes (text : String) : List UInt8 := text.toUTF8.data.toList

theorem bytes_eq (text : String) : bytes text = text.toList.flatMap String.utf8EncodeChar := by
  have htext : text.toUTF8 = text.toList.utf8Encode := by
    rw [String.toUTF8_eq_toByteArray, ← String.toByteArray_ofList, String.ofList_toList]
  rw [bytes, htext, List.utf8Encode, List.data_toByteArray]

theorem utf8EncodeChar_ne_nil (c : Char) : String.utf8EncodeChar c ≠ [] := by
  unfold String.utf8EncodeChar
  dsimp only
  split_ifs <;> exact List.cons_ne_nil _ _

theorem toNat_lt (c : Char) : c.toNat < 0x110000 := by
  rcases c.valid with h | ⟨-, h⟩
  · exact Nat.lt_trans h (by decide)
  · exact h

/-- Whatever follows, the bytes of the smaller character come first. -/
theorem utf8EncodeChar_append_lt {c d : Char} (h : c < d) (after other : List UInt8) :
    String.utf8EncodeChar c ++ after < String.utf8EncodeChar d ++ other := by
  have hval : c.val.toNat < d.val.toNat := h
  have hd : d.val.toNat < 0x110000 := toNat_lt d
  -- One division after the other, so that each byte is what the next one leaves.
  have htwo : ∀ n, n / 4096 = n / 64 / 64 := fun n => (Nat.div_div_eq_div_mul n 64 64).symm
  have hthree : ∀ n, n / 262144 = n / 64 / 64 / 64 := fun n => by
    rw [Nat.div_div_eq_div_mul, Nat.div_div_eq_div_mul]
  unfold String.utf8EncodeChar
  dsimp only
  split_ifs <;>
    simp only [List.cons_append, List.nil_append, List.cons_lt_cons_iff, UInt8.lt_iff_toNat_lt,
      ← UInt8.toNat_inj, UInt8.toNat_ofNat', htwo, hthree] <;>
    omega

theorem flatMap_utf8EncodeChar_lt {a b : List Char} (h : a < b) :
    a.flatMap String.utf8EncodeChar < b.flatMap String.utf8EncodeChar := by
  induction a generalizing b with
  | nil =>
    cases b with
    | nil => exact absurd h (List.lt_irrefl _)
    | cons d b =>
      obtain ⟨byte, bytes, hbytes⟩ := List.exists_cons_of_ne_nil (utf8EncodeChar_ne_nil d)
      rw [List.flatMap_nil, List.flatMap_cons, hbytes]
      exact List.nil_lt_cons ..
  | cons c a ih =>
    cases b with
    | nil => exact absurd h (List.not_lt_nil _)
    | cons d b =>
      rw [List.flatMap_cons, List.flatMap_cons]
      rcases List.cons_lt_cons_iff.mp h with hchar | ⟨rfl, hlater⟩
      · exact utf8EncodeChar_append_lt hchar ..
      · exact List.append_left_lt (ih hlater)

theorem bytes_lt {a b : String} (h : a < b) : bytes a < bytes b := by
  rw [bytes_eq, bytes_eq]
  exact flatMap_utf8EncodeChar_lt (String.lt_iff.mp h)

/-- The order of texts is that of their bytes. -/
theorem bytes_lt_iff (a b : String) : bytes a < bytes b ↔ a < b := by
  refine ⟨fun h => ?_, bytes_lt⟩
  by_contra hnot
  rcases Std.le_iff_lt_or_eq.mp (String.not_lt.mp hnot) with hlt | rfl
  · exact List.lt_asymm h (bytes_lt hlt)
  · exact List.lt_irrefl _ h

end FieldRules.Text
