import FieldRules.Text.Category

/-! Decimal digits, of any script. On ASCII they are told without a table. -/
namespace FieldRules.Text

def decimals : Boundaries := (Category.setOf ["Nd"]).boundaries

def isDecimal (c : Char) : Bool := if c.toNat < 128 then c.isDigit else decimals.contains c

theorem toNat_of_isDigit {c : Char} (h : c.isDigit = true) : 48 ≤ c.toNat ∧ c.toNat < 58 := by
  simp only [Char.isDigit, Bool.and_eq_true, decide_eq_true_eq] at h
  exact ⟨UInt32.le_iff_toNat_le.mp h.1, Nat.lt_succ_of_le (UInt32.le_iff_toNat_le.mp h.2)⟩

theorem not_mem_toDigits {c : Char} (h : c.isDigit = false) (n : Nat) : c ∉ Nat.toDigits 10 n := by
  intro hmem
  rw [Nat.isDigit_of_mem_toDigits (by decide) (by decide) hmem] at h
  exact Bool.noConfusion h

theorem isDecimal_of_isDigit {c : Char} (h : c.isDigit = true) : isDecimal c = true := by
  have hascii : c.toNat < 128 := by
    obtain ⟨-, hlt⟩ := toNat_of_isDigit h
    omega
  rw [isDecimal, if_pos hascii, h]

end FieldRules.Text
