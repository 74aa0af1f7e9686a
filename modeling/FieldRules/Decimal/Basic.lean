import FieldRules.Decimal.Binary

/-! Decimal numbers as they are written: digits, and a power of ten.

A `Decimal` keeps what a numeral says before anything is rounded. `toDouble?`
rounds it to binary, correctly in every case; a numeral past the greatest finite
value has no double. -/
namespace FieldRules

/-- `coefficient * 10 ^ exponent`, negated or not. -/
structure Decimal where
  negative : Bool
  coefficient : Nat
  exponent : Int

namespace Decimal

/-- How many digits stand before the point when there is nothing but zeros
before the first of them; below zero, how many zeros follow the point. -/
def magnitude (d : Decimal) : Int := (Nat.toDigits 10 d.coefficient).length + d.exponent

/-- Beyond either bound on the magnitude the answer is settled without forming
the power of ten. -/
def toDouble? (d : Decimal) : Option Double :=
  if d.coefficient = 0 then some (Double.zero d.negative)
  else if 400 < d.magnitude then none
  else if d.magnitude < -400 then some (Double.zero d.negative)
  else if 0 ≤ d.exponent then
    Double.ofRatio d.negative (d.coefficient * Nat.pow 10 d.exponent.toNat) 1
  else Double.ofRatio d.negative d.coefficient (Nat.pow 10 (-d.exponent).toNat)

def ofInt (n : Int) : Decimal := ⟨n < 0, n.natAbs, 0⟩

end Decimal

/-! ### Numerals -/

/-- The value of a nonempty text of decimal digits. -/
def natural? (text : List Char) : Option Nat :=
  if text.isEmpty || !text.all Char.isDigit then none else some (Nat.ofDigitChars 10 text 0)

theorem natural?_eq_some_iff (digits : List Char) (n : Nat) :
    natural? digits = some n ↔
      digits ≠ [] ∧ (∀ c ∈ digits, c.isDigit = true) ∧ Nat.ofDigitChars 10 digits 0 = n := by
  have hnumeral : (digits.isEmpty || !digits.all Char.isDigit) = false ↔
      digits ≠ [] ∧ ∀ c ∈ digits, c.isDigit = true := by simp
  rw [natural?, ← and_assoc, ← hnumeral]
  cases digits.isEmpty || !digits.all Char.isDigit <;> simp

theorem natural?_toDigits (n : Nat) : natural? (Nat.toDigits 10 n) = some n := by
  have hd : (Nat.toDigits 10 n).all Char.isDigit = true :=
    List.all_eq_true.mpr fun c hc => Nat.isDigit_of_mem_toDigits (by decide) (by decide) hc
  have hn : (Nat.toDigits 10 n).isEmpty = false := by
    simp [Nat.toDigits_ne_nil]
  simp [natural?, hd, hn, Nat.ofDigitChars_ten_toDigits]

/-- A natural number is known by its decimal text. -/
theorem repr_inj {a b : Nat} : a.repr = b.repr ↔ a = b := by
  refine ⟨fun h => ?_, fun h => congrArg Nat.repr h⟩
  have hd : Nat.toDigits 10 a = Nat.toDigits 10 b := by
    rw [← Nat.toList_repr, ← Nat.toList_repr, h]
  have hn := congrArg natural? hd
  rw [natural?_toDigits, natural?_toDigits] at hn
  exact Option.some.inj hn

/-- An optional sign, and what follows it. -/
def signed (text : List Char) : Bool × List Char :=
  match text with
  | '-' :: rest => (true, rest)
  | '+' :: rest => (false, rest)
  | rest => (false, rest)

/-- The value of digits with an optional sign. -/
def integer? (text : List Char) : Option Int :=
  (natural? (signed text).2).map fun (n : Nat) => if (signed text).1 then -(n : Int) else n

end FieldRules
