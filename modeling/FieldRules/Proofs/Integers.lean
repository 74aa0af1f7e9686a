import FieldRules.Proofs.Numerals
import FieldRules.Rule.Builtin
import FieldRules.Text.Digit

/-! Integers, as numbers and as texts.

An integer is a number of 64 bits, signed or unsigned, or a text that is read as a signed one.
The decimal text of an integer is read as that integer (`integer?_repr`), and there is nothing
to trim from it (`Text.trim_of_not_blank`).

`Builtin.integer_alike_iff`: so a number and its text are judged alike up to the greatest signed
integer; above it the number is accepted and its text is not. -/
namespace FieldRules

/-- A digit is no blank. -/
theorem Text.isBlank_of_isDigit {c : Char} (h : c.isDigit = true) : isBlank c = false := by
  obtain ⟨hleast, hgreatest⟩ := toNat_of_isDigit h
  simp only [isBlank, Bool.or_eq_false_iff, Bool.and_eq_false_iff, decide_eq_false_iff_not]
  omega

/-! ### Decimal texts -/

/-- A sign if the integer is negative, and the digits of its size. -/
theorem toList_repr_int (n : Int) :
    n.repr.toList =
      if decide (n < 0) then '-' :: Nat.toDigits 10 n.natAbs else Nat.toDigits 10 n.natAbs := by
  cases n with
  | ofNat m => simp [Int.repr]
  | negSucc m => simp [Int.repr]

/-- The text of a number that is an integer is its decimal text. -/
theorem text_integer {n : Int} (fits : Fits64 n) :
    (Json.number (.integer n fits)).text = n.repr := by
  rw [← String.toList_inj, Json.text, String.toList_ofList, toList_repr_int]
  exact Json.chars_integer fits

theorem signed_toDigits (n : Nat) : signed (Nat.toDigits 10 n) = (false, Nat.toDigits 10 n) := by
  have hdigits := isDigit_toDigits n
  unfold signed
  split
  · rename_i heq
    exact absurd (hdigits '-' (heq ▸ List.mem_cons_self ..)) (by decide)
  · rename_i heq
    exact absurd (hdigits '+' (heq ▸ List.mem_cons_self ..)) (by decide)
  · rfl

/-- An integer is read from its decimal text. -/
theorem integer?_repr (n : Int) : integer? n.repr.toList = some n := by
  have hvalue := Json.signed_natAbs n
  rw [toList_repr_int]
  by_cases hneg : n < 0
  · rw [decide_eq_true hneg, if_pos rfl] at hvalue ⊢
    show (natural? (Nat.toDigits 10 n.natAbs)).map _ = _
    rw [natural?_toDigits, Option.map_some]
    exact congrArg some hvalue
  · rw [decide_eq_false hneg, if_neg Bool.false_ne_true] at hvalue ⊢
    rw [integer?, signed_toDigits, natural?_toDigits, Option.map_some]
    exact congrArg some hvalue

theorem isBlank_repr_int (n : Int) : ∀ c ∈ n.repr.toList, Text.isBlank c = false := by
  have hdigits : ∀ c ∈ Nat.toDigits 10 n.natAbs, Text.isBlank c = false := fun c hc =>
    Text.isBlank_of_isDigit (isDigit_toDigits _ c hc)
  rw [toList_repr_int]
  split
  · exact List.forall_mem_cons.mpr ⟨rfl, hdigits⟩
  · exact hdigits

namespace Builtin

/-! ### The rule -/

theorem integer_repr_iff (n : Int) :
    integer (.string n.repr) = true ↔ -9223372036854775808 ≤ n ∧ n ≤ 9223372036854775807 := by
  rw [integer, Text.trim_of_not_blank (isBlank_repr_int n), isIntegerText, integer?_repr]
  simp

/-- **A number and its text are judged alike** exactly up to the greatest signed integer. Every
integer of 64 bits is accepted as a number. -/
theorem integer_alike_iff {n : Int} (fits : Fits64 n) :
    integer (.number (.integer n fits)) = true ∧
      (Json.number (.integer n fits)).text = n.repr ∧
      ((integer (.number (.integer n fits)) = true ↔ integer (.string n.repr) = true) ↔
        n ≤ 9223372036854775807) := by
  have hnumber : integer (.number (.integer n fits)) = true := rfl
  refine ⟨hnumber, text_integer fits, ?_⟩
  rw [integer_repr_iff, iff_true_left hnumber]
  exact and_iff_right fits.1

/-- The greatest signed integer and the least. -/
theorem integer_alike_iff_limits :
    Fits64 9223372036854775807 ∧ Fits64 (-9223372036854775808) ∧
      integer (.string "9223372036854775807") = true ∧
      integer (.string "-9223372036854775808") = true := by
  have hgreatest : Fits64 9223372036854775807 := by decide
  have hleast : Fits64 (-9223372036854775808) := by decide
  exact ⟨hgreatest, hleast, ((integer_alike_iff hgreatest).2.2.mpr (by decide)).mp rfl,
    ((integer_alike_iff hleast).2.2.mpr (by decide)).mp rfl⟩

/-- The next one is an integer as a number, and not as its text. -/
theorem not_integer_alike :
    ∃ fits : Fits64 9223372036854775808,
      (Json.number (.integer 9223372036854775808 fits)).text = "9223372036854775808" ∧
      ¬(integer (.number (.integer 9223372036854775808 fits)) = true ↔
        integer (.string "9223372036854775808") = true) := by
  have fits : Fits64 9223372036854775808 := by decide
  have hrejected : integer (.string "9223372036854775808") = false := by decide
  exact ⟨fits, text_integer fits, fun h => Bool.eq_false_iff.mp hrejected (h.mp rfl)⟩

end Builtin
end FieldRules
