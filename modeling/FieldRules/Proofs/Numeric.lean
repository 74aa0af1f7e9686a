import FieldRules.Proofs.Integers

/-! Texts of integers as texts of numbers.

Integers and numbers are read by two grammars. What the first one reads is a sign, if there is
one, and digits; the second reads these as the same whole number, since none of its words is made
of digits (`Extended.ofChars?_of_integer?`). How many zeros stand in front makes no difference to
the number, and an integer of 64 bits is far below the greatest double
(`Decimal.toDouble?_ne_none`).

`Builtin.numeric_of_integer`: so every value that is accepted as an integer is accepted as a
number. -/
namespace FieldRules

theorem Text.toLower_of_isDigit {c : Char} (h : c.isDigit = true) : c.toLower = c := by
  obtain ⟨-, hlt⟩ := toNat_of_isDigit h
  refine dif_neg fun hupper => ?_
  have hleast := UInt32.le_iff_toNat_le.mp hupper.1
  exact absurd hlt (Nat.not_lt.mpr (Nat.le_trans (by decide) hleast))

namespace Extended

/-! ### Digits -/

section
variable {digits : List Char} (h : ∀ c ∈ digits, c.isDigit = true)
include h

/-- Every word has an `n` in it. -/
theorem ofList_toLower_ne (word : String) (hword : 'n' ∈ word.toList) :
    String.ofList (digits.map Char.toLower) ≠ word := by
  rintro rfl
  rw [String.toList_ofList, List.map_congr_left fun c hc => Text.toLower_of_isDigit (h c hc),
    List.map_id'] at hword
  exact absurd (h _ hword) (by decide)

theorem unsigned?_digits (hne : digits ≠ []) (negative : Bool) :
    unsigned? negative digits =
      some (ofDecimal ⟨negative, Nat.ofDigitChars 10 digits 0, 0⟩) := by
  have htake : digits.takeWhile Char.isDigit = digits := List.takeWhile_eq_self_iff.mpr h
  have hdrop : digits.dropWhile Char.isDigit = [] := List.dropWhile_eq_nil_iff.mpr h
  simp [unsigned?, htake, hdrop, hne, power?]

end

/-- What is read as an integer is read as that whole number. -/
theorem ofChars?_of_integer? {text : List Char} {n : Int} (h : integer? text = some n) :
    ofChars? text = some (ofDecimal ⟨(signed text).1, n.natAbs, 0⟩) := by
  obtain ⟨size, hsize, rfl⟩ := Option.map_eq_some_iff.mp h
  obtain ⟨hne, hdigits, rfl⟩ := (natural?_eq_some_iff ..).mp hsize
  have hword := ofList_toLower_ne hdigits
  unfold ofChars?
  dsimp only
  split
  · exact absurd (by assumption) (hword "inf" (by decide))
  · exact absurd (by assumption) (hword "infinity" (by decide))
  · exact absurd (by assumption) (hword "nan" (by decide))
  · rw [unsigned?_digits hdigits hne]
    split <;> simp

end Extended

namespace Builtin

/-! ### The rules -/

/-- With whatever zeros in front, it is the text of a finite number. -/
theorem isFinite_of_isIntegerText {text : List Char} (h : isIntegerText text = true) :
    (Extended.ofChars? text).any Extended.isFinite = true := by
  obtain ⟨n, hread, hrange⟩ := (Option.any_eq_true ..).mp h
  have hbits : n.natAbs < Nat.pow 2 64 := by
    simp only [Bool.and_eq_true, decide_eq_true_eq] at hrange
    show n.natAbs < 18446744073709551616
    omega
  obtain ⟨x, hx⟩ := Option.ne_none_iff_exists'.mp
    (Decimal.toDouble?_ne_none (by decide) hbits (signed text).1)
  rw [Extended.ofChars?_of_integer? hread, Extended.ofDecimal, hx]
  rfl

/-- **What is an integer is a number.** -/
theorem numeric_of_integer {v : Json} (h : integer v = true) : numeric v = true := by
  cases v with
  | number n => rfl
  | string s => exact isFinite_of_isIntegerText h
  | null => cases h
  | bool b => cases h
  | array items => cases h
  | object entries => cases h

/-- With blanks around it, a sign and zeros in front, and the least integer. -/
theorem numeric_of_integer_zeros :
    integer (.string " +007\n") = true ∧ numeric (.string " +007\n") = true ∧
      integer (.string "-9223372036854775808") = true ∧
      numeric (.string "-9223372036854775808") = true := by
  have hzeros : integer (.string " +007\n") = true := by decide
  have hleast : integer (.string "-9223372036854775808") = true := by decide
  exact ⟨hzeros, numeric_of_integer hzeros, hleast, numeric_of_integer hleast⟩

end Builtin
end FieldRules
