import FieldRules.Proofs.Numerals
import FieldRules.Text.Digit

/-! Numbers that reading does not change.

Whole numbers below `2 ^ 53` are doubles, and so are the powers of ten up to the
twenty-second (`Double.scaled_rankOf`, `Double.scaled_powerOfTen`). A product or a quotient
of the two is rounded once, as the exact value is: then scaling gives the nearest double
(`Decimal.estimate?_eq_toDouble?`).

`Number.settled_of_modest`: so a double is read from its text as itself if it has at most
fifteen digits and is neither great nor small, and an integer is in any case. -/
namespace FieldRules

namespace Double

/-! ### Exact steps -/

/-- The rank of a place that has all its bits, after as many powers of two. -/
theorem scaled_place {place : Nat} (shift : Nat) (hlow : Nat.pow 2 52 ≤ place)
    (hhigh : place < Nat.pow 2 53) :
    scaled (Nat.pow 2 52 * shift + place) = Nat.pow 2 shift * place := by
  have hdouble : Nat.pow 2 53 = Nat.pow 2 52 + Nat.pow 2 52 := by decide
  have hsplit : Nat.pow 2 52 * shift + place =
      Nat.pow 2 52 * (shift + 1) + (place - Nat.pow 2 52) := by
    rw [Nat.mul_succ]
    omega
  have hlast : place - Nat.pow 2 52 < Nat.pow 2 52 := by omega
  have hexponent : exponent (Nat.pow 2 52 * shift + place) = shift := by
    rw [exponent, hsplit, Nat.mul_add_div (by decide), Nat.div_eq_of_lt hlast]
    rfl
  have hmantissa : mantissa (Nat.pow 2 52 * shift + place) = place := by
    rw [mantissa_of_le (Nat.le_trans hlow (Nat.le_add_left ..)), hsplit, Nat.mul_add_mod,
      Nat.mod_eq_of_lt hlast]
    omega
  rw [scaled, hexponent, hmantissa]

/-- Fifty-three bits, and zeros after them. -/
theorem exists_scaled {m j : Nat} (hm : m < Nat.pow 2 53) (hj : 52 ≤ j) :
    ∃ rank, scaled rank = Nat.pow 2 j * m := by
  by_cases hzero : m = 0
  · exact ⟨0, by rw [hzero, Nat.mul_zero]; rfl⟩
  · have hlog : m.log2 ≤ 52 := Nat.le_of_lt_succ ((Nat.log2_lt hzero).mpr hm)
    have hpow : Nat.pow 2 (52 - m.log2) * Nat.pow 2 m.log2 = Nat.pow 2 52 := by
      rw [← pow_add, Nat.sub_add_cancel hlog]
    have hlow : Nat.pow 2 52 ≤ Nat.pow 2 (52 - m.log2) * m := by
      rw [← hpow]
      exact Nat.mul_le_mul_left _ (Nat.log2_self_le hzero)
    have hhigh : Nat.pow 2 (52 - m.log2) * m < Nat.pow 2 53 := by
      have hnext : Nat.pow 2 (52 - m.log2) * Nat.pow 2 (m.log2 + 1) = Nat.pow 2 53 := by
        rw [← pow_add, ← Nat.add_assoc, Nat.sub_add_cancel hlog]
      rw [← hnext]
      exact Nat.mul_lt_mul_of_pos_left Nat.lt_log2_self (pow_pos (by decide) _)
    refine ⟨_, (scaled_place (j - (52 - m.log2)) hlow hhigh).trans ?_⟩
    rw [← Nat.mul_assoc, ← pow_add, Nat.sub_add_cancel (by omega)]

theorem quotient_of_scaled {a b k m n : Nat} (ha : scaled a = Nat.pow 2 k * m)
    (hb : scaled b = Nat.pow 2 k * n) : quotient a b = rankOf m n := by
  rw [quotient, ha, hb, rankOf_mul (pow_pos (by decide) k)]

section
variable {k : Nat} (hk : k = 1074)
include hk

theorem scaled_rankOf_of_exists {n : Nat} (h : ∃ rank, scaled rank = Nat.pow 2 k * n) :
    scaled (rankOf n 1) = Nat.pow 2 k * n := by
  obtain ⟨rank, hrank⟩ := h
  have hround : rankOf n 1 = rank := by
    have hpos : 0 < Nat.pow 2 k := pow_pos (by decide) k
    rw [← rankOf_mul hpos, ← hrank, Nat.mul_one, rankOf_scaled rank hk]
  rw [hround, hrank]

theorem scaled_rankOf {n : Nat} (h : n < Nat.pow 2 53) :
    scaled (rankOf n 1) = Nat.pow 2 k * n :=
  scaled_rankOf_of_exists hk (exists_scaled h (by omega))

/-- A power of ten is a power of five, and zeros after it. -/
theorem scaled_powerOfTen {n : Nat} (h : n ≤ 22) :
    scaled (powerOfTen n) = Nat.pow 2 k * Nat.pow 10 n := by
  have hfive : Nat.pow 5 n < Nat.pow 2 53 :=
    Nat.lt_of_le_of_lt (pow_le_pow (by decide) h) (by decide)
  have hten : Nat.pow 10 n = Nat.pow 2 n * Nat.pow 5 n := Nat.mul_pow 2 5 n
  obtain ⟨rank, hrank⟩ := exists_scaled (j := k + n) hfive (by omega)
  rw [pow_add, Nat.mul_assoc, ← hten] at hrank
  exact scaled_rankOf_of_exists hk ⟨rank, hrank⟩

/-- The product of two exact values is rounded once. -/
theorem product_of_scaled {a b m n : Nat} (ha : scaled a = Nat.pow 2 k * m)
    (hb : scaled b = Nat.pow 2 k * n) : product a b = rankOf (m * n) 1 := by
  have hpos : 0 < Nat.pow 2 k := pow_pos (by decide) k
  have hnum : Nat.pow 2 k * m * (Nat.pow 2 k * n) = Nat.pow 2 k * Nat.pow 2 k * (m * n) := by
    rw [Nat.mul_assoc, Nat.mul_left_comm m, ← Nat.mul_assoc]
  have hround := rankOf_mul (Nat.mul_pos hpos hpos) (m * n) 1
  rw [Nat.mul_one] at hround
  rw [product, ← hk, ha, hb, hnum, hround]

end

theorem rankOf_zero {den : Nat} (h : 0 < den) : rankOf 0 den = 0 := by
  unfold rankOf
  generalize Nat.pow 2 1074 = least
  simp [nearest, h]

end Double

namespace Decimal
open Double (ofRatio ofRank? rankOf)

theorem ofRatio_zero (negative : Bool) {den : Nat} (h : 0 < den) :
    ofRatio negative 0 den = some (Double.zero negative) := by
  have hrank := Double.rankOf_zero h
  simp only [ofRatio, hrank]
  rfl

/-- **One rounding.** Few digits and a small power of ten scale to the nearest double. -/
theorem estimate?_eq_toDouble? {d : Decimal} (hc : d.coefficient < Nat.pow 2 53)
    (hlow : -22 ≤ d.exponent) (hhigh : d.exponent ≤ 22) : d.estimate? = d.toDouble? := by
  have hratio : d.estimate? = d.ratio := by
    obtain ⟨k, hk⟩ : ∃ k, k = 1074 := ⟨_, rfl⟩
    have hstart := Double.scaled_rankOf hk hc
    unfold estimate? ratio
    by_cases hneg : d.exponent < 0
    · have hsmall : (-d.exponent).toNat ≤ 22 := by omega
      have hquotient := Double.quotient_of_scaled hstart
        (Double.scaled_powerOfTen hk hsmall)
      rw [if_pos hneg, if_neg (by omega), Double.scaleDown,
        if_pos (Nat.le_trans hsmall (by decide)), hquotient]
      rfl
    · have hsmall : d.exponent.toNat ≤ 22 := by omega
      have hproduct := Double.product_of_scaled hk hstart
        (Double.scaled_powerOfTen hk hsmall)
      have hfinite : d.exponent ≤ (Double.greatestPower : Int) := Int.le_trans hhigh (by decide)
      rw [if_neg hneg, if_pos hfinite, if_pos (Int.not_lt.mp hneg), hproduct]
      rfl
  by_cases hzero : d.coefficient = 0
  · rw [hratio, toDouble?, if_pos hzero, ratio, hzero, Nat.zero_mul]
    split
    · exact ofRatio_zero d.negative Nat.one_pos
    · exact ofRatio_zero d.negative (pow_pos (by decide) _)
  · have hlength : (Nat.toDigits 10 d.coefficient).length ≤ 16 :=
      (length_toDigits_le (by decide)).mpr (Nat.lt_of_lt_of_le hc (by decide))
    rw [hratio, toDouble?_eq_ratio hzero, if_neg, if_neg]
    · unfold magnitude
      omega
    · unfold magnitude
      omega

/-! ### Digits that are kept -/

theorem le_ofDigitChars (n : Nat) (digits : List Char) : n ≤ Nat.ofDigitChars 10 digits n := by
  induction digits generalizing n with
  | nil => exact Nat.le_of_eq Nat.ofDigitChars_nil.symm
  | cons c rest ih =>
    rw [Nat.ofDigitChars_cons]
    exact Nat.le_trans (by omega) (ih _)

theorem kept_of_lt {n : Nat} {digits : List Char}
    (h : Nat.ofDigitChars 10 digits n < Nat.pow 2 64) :
    kept n digits = (Nat.ofDigitChars 10 digits n, []) := by
  induction digits generalizing n with
  | nil => rw [kept, Nat.ofDigitChars_nil]
  | cons c rest ih =>
    rw [Nat.ofDigitChars_cons] at h ⊢
    rw [kept, if_pos (Nat.lt_of_le_of_lt (le_ofDigitChars _ rest) h), ih h]

theorem ofDigits_of_lt (negative : Bool) {whole fraction : List Char} (power : Int)
    (h : Nat.ofDigitChars 10 (whole ++ fraction) 0 < Nat.pow 2 64) :
    ofDigits negative whole fraction power =
      Json.atPoint negative (whole ++ fraction) (whole.length + power) := by
  rw [Nat.ofDigitChars_append] at h
  have hwhole := kept_of_lt (Nat.lt_of_le_of_lt (le_ofDigitChars _ fraction) h)
  have hplace : power + (([] : List Char).length : Nat) -
      ((fraction.length - ([] : List Char).length : Nat) : Int) =
        whole.length + power - ((whole ++ fraction).length : Nat) := by
    rw [List.length_append, List.length_nil]
    omega
  simp only [ofDigits, hwhole, kept_of_lt h, Json.atPoint, Nat.ofDigitChars_append]
  rw [hplace]

theorem ofDigitChars_lt {digits : List Char} (h : ∀ c ∈ digits, c.isDigit = true) (n : Nat) :
    Nat.ofDigitChars 10 digits n < (n + 1) * Nat.pow 10 digits.length := by
  induction digits generalizing n with
  | nil =>
    rw [Nat.ofDigitChars_nil]
    exact Nat.lt_succ_self n |>.trans_eq (Nat.mul_one (n + 1)).symm
  | cons c rest ih =>
    obtain ⟨hc, hrest⟩ := List.forall_mem_cons.mp h
    obtain ⟨-, hgreatest⟩ := Text.toNat_of_isDigit hc
    have hnext : 10 * n + (c.toNat - '0'.toNat) + 1 ≤ (n + 1) * 10 := by
      show 10 * n + (c.toNat - 48) + 1 ≤ (n + 1) * 10
      omega
    rw [Nat.ofDigitChars_cons, List.length_cons, Nat.add_comm rest.length, pow_add,
      ← Nat.mul_assoc]
    exact Nat.lt_of_lt_of_le (ih hrest _) (Nat.mul_le_mul_right _ hnext)

end Decimal

namespace Number

/-- An integer, or a double of at most fifteen digits that is neither great nor small. -/
def Modest : Number → Prop
  | integer .. => True
  | float x => x.shortest.coefficient < Nat.pow 10 15 ∧ -7 ≤ x.shortest.magnitude ∧
      x.shortest.magnitude ≤ 14

theorem settled_of_few_digits {x : Double} (hdigits : x.shortest.coefficient < Nat.pow 10 15)
    (hlow : -7 ≤ x.shortest.magnitude) (hhigh : x.shortest.magnitude ≤ 14) :
    (float x).Settled := by
  obtain ⟨whole, fraction, power, ⟨body, hchars, hspells⟩, hfloat, digits, hall, hplaced, hexact,
    hlength⟩ := Json.exists_shows x
  have hlong : (Nat.toDigits 10 x.shortest.coefficient).length ≤ 15 :=
    (Decimal.length_toDigits_le (by decide)).mpr hdigits
  have hcoefficient : (Json.atPoint x.negative digits x.shortest.magnitude).coefficient <
      Nat.pow 10 15 :=
    Nat.lt_of_lt_of_le (Decimal.ofDigitChars_lt hall 0)
      (Nat.le_trans (Nat.le_of_eq (Nat.one_mul _)) (pow_le_pow (by decide) (by omega)))
  have hvalue : Nat.ofDigitChars 10 (whole ++ fraction) 0 < Nat.pow 2 64 := by
    rw [← hplaced] at hcoefficient
    exact Nat.lt_trans hcoefficient (by decide)
  have hestimate : (Decimal.ofDigits x.negative whole fraction (power.getD 0)).estimate? =
      some x := by
    rw [Decimal.ofDigits_of_lt _ _ hvalue, hplaced, Decimal.estimate?_eq_toDouble?, hexact]
    · exact Nat.lt_trans hcoefficient (by decide)
    · show -22 ≤ x.shortest.magnitude - (digits.length : Int)
      omega
    · show x.shortest.magnitude - (digits.length : Int) ≤ 22
      omega
  have hends : Json.Ends [] := fun c hc => nomatch hc
  have hread := hspells.numeral x.negative hends
  rw [List.append_nil, ← hchars, Json.ofNumeral_double _ hfloat, hestimate] at hread
  rw [Settled, reread?]
  exact congrArg (Option.map Prod.fst) hread

theorem settled_of_modest {n : Number} (h : n.Modest) : n.Settled := by
  cases n with
  | integer value fits => exact settled_integer fits
  | float x => exact settled_of_few_digits h.1 h.2.1 h.2.2

/-- The double that `5e32` is read as has seventeen digits, and its text is not read as it. -/
example : ((Decimal.estimate? ⟨false, 5, 32⟩).map fun x => decide (float x).Settled) =
    some false := by
  decide +kernel

end Number
end FieldRules
