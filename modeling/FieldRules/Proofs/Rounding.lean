import FieldRules.Decimal.Shortest

/-! What rounding keeps.

Rounding sees nothing but a ratio (`Double.rankOf_mul`), so zeros at the end of a
coefficient count no more than a greater exponent (`Decimal.toDouble?_shift`). A ratio
that is the exact value of a double rounds to that double (`Double.rankOf_expansion`).

`Double.toDouble?_shortest`: so the shortest decimal of a double gives the double.
`Decimal.toDouble?_ne_none`: whole numbers that are not too long have a double at all. -/
namespace FieldRules

/-! ### Powers

They are in the spelling of the definitions of the format. -/

theorem pow_pos {b : Nat} (h : 0 < b) (n : Nat) : 0 < Nat.pow b n := Nat.pow_pos h

theorem pow_le_pow {b m n : Nat} (hb : 0 < b) (h : m ≤ n) : Nat.pow b m ≤ Nat.pow b n :=
  Nat.pow_le_pow_right hb h

theorem pow_add (b m n : Nat) : Nat.pow b (m + n) = Nat.pow b m * Nat.pow b n := Nat.pow_add ..

namespace Double

/-! ### Ratios -/

theorem nearest_mul {k : Nat} (hk : 0 < k) (num den : Nat) :
    nearest (k * num) (k * den) = nearest num den := by
  have hwhole : k * num / (k * den) = num / den := Nat.mul_div_mul_left num den hk
  have hpart : 2 * (k * num % (k * den)) = k * (2 * (num % den)) := by
    rw [Nat.mul_mod_mul_left, Nat.mul_left_comm]
  have hlt : ∀ a b, k * a < k * b ↔ a < b := fun a b => Nat.mul_lt_mul_left hk
  simp only [nearest, hwhole, hpart, hlt]

theorem nearest_one (n : Nat) : nearest n 1 = n := by
  simp [nearest, Nat.mod_one]

theorem rankOf_mul {k : Nat} (hk : 0 < k) (num den : Nat) :
    rankOf (k * num) (k * den) = rankOf num den := by
  unfold rankOf
  generalize Nat.pow 2 1074 = least
  have hunits : least * (k * num) = k * (least * num) := Nat.mul_left_comm ..
  have hwhole : k * (least * num) / (k * den) = least * num / den := Nat.mul_div_mul_left _ _ hk
  have hplace : ∀ shift, Nat.pow 2 shift * (k * den) = k * (Nat.pow 2 shift * den) :=
    fun shift => Nat.mul_left_comm ..
  simp only [hunits, hwhole, hplace, nearest_mul hk]

theorem ofRatio_mul {k : Nat} (hk : 0 < k) (negative : Bool) (num den : Nat) :
    ofRatio negative (k * num) (k * den) = ofRatio negative num den := by
  unfold ofRatio
  simp only [rankOf_mul hk]

/-! ### Exact values -/

theorem mantissa_of_lt {rank : Nat} (h : rank < Nat.pow 2 52) : mantissa rank = rank := if_pos h

theorem exponent_of_lt {rank : Nat} (h : rank < Nat.pow 2 52) : exponent rank = 0 := by
  rw [exponent, Nat.div_eq_of_lt h]

theorem mantissa_of_le {rank : Nat} (h : Nat.pow 2 52 ≤ rank) :
    mantissa rank = Nat.pow 2 52 + rank % Nat.pow 2 52 := if_neg (Nat.not_lt.mpr h)

/-- The rank counts the powers of two passed, and the place after the last one. -/
theorem rank_eq (rank : Nat) : Nat.pow 2 52 * exponent rank + mantissa rank = rank := by
  by_cases h : rank < Nat.pow 2 52
  · rw [exponent_of_lt h, mantissa_of_lt h, Nat.mul_zero, Nat.zero_add]
  · have hle := Nat.not_lt.mp h
    have hsplit := Nat.div_add_mod rank (Nat.pow 2 52)
    have hpos : 0 < rank / Nat.pow 2 52 := Nat.div_pos hle (by decide)
    rw [mantissa_of_le hle, exponent, ← Nat.add_assoc, ← Nat.mul_succ,
      Nat.succ_eq_add_one, Nat.sub_add_cancel hpos]
    exact hsplit

theorem mantissa_lt (rank : Nat) : mantissa rank < Nat.pow 2 53 := by
  have hmod : rank % Nat.pow 2 52 < Nat.pow 2 52 := Nat.mod_lt _ (by decide)
  have hdouble : Nat.pow 2 53 = Nat.pow 2 52 + Nat.pow 2 52 := by decide
  unfold mantissa
  split <;> omega

theorem log2_scaled (rank : Nat) : (scaled rank).log2 - 52 = exponent rank := by
  by_cases h : rank < Nat.pow 2 52
  · have hscaled : scaled rank = rank := by
      rw [scaled, exponent_of_lt h, mantissa_of_lt h]
      exact Nat.one_mul rank
    rw [hscaled, exponent_of_lt h]
    by_cases hzero : rank = 0
    · subst hzero
      rfl
    · have hlog : rank.log2 < 52 := (Nat.log2_lt hzero).mpr h
      omega
  · have hle : Nat.pow 2 52 ≤ mantissa rank := by
      rw [mantissa_of_le (Nat.not_lt.mp h)]
      exact Nat.le_add_right ..
    have hpow : 0 < Nat.pow 2 (exponent rank) := pow_pos (by decide) _
    have hlow : Nat.pow 2 (exponent rank + 52) ≤ scaled rank := by
      rw [pow_add]
      exact Nat.mul_le_mul_left _ hle
    have hhigh : scaled rank < Nat.pow 2 (exponent rank + 52 + 1) := by
      rw [Nat.add_assoc, pow_add]
      exact Nat.mul_lt_mul_of_pos_left (mantissa_lt rank) hpow
    have hne : scaled rank ≠ 0 :=
      Nat.ne_of_gt (Nat.lt_of_lt_of_le (pow_pos (by decide) _) hlow)
    have hlog : (scaled rank).log2 = exponent rank + 52 :=
      (Nat.log2_eq_iff hne).mpr ⟨hlow, hhigh⟩
    omega

/-- Measured in units of any size, the exact value of a rank rounds to it. -/
theorem place_scaled {least : Nat} (h : 0 < least) (rank : Nat) :
    let shift := Nat.log2 (least * scaled rank / least) - 52
    Nat.pow 2 52 * shift + nearest (least * scaled rank) (Nat.pow 2 shift * least) = rank := by
  have hpos : 0 < least * Nat.pow 2 (exponent rank) := Nat.mul_pos h (pow_pos (by decide) _)
  have hwhole : least * scaled rank / least = scaled rank := Nat.mul_div_cancel_left _ h
  have hnum : least * scaled rank = least * Nat.pow 2 (exponent rank) * mantissa rank :=
    (Nat.mul_assoc ..).symm
  have hden : Nat.pow 2 (exponent rank) * least = least * Nat.pow 2 (exponent rank) * 1 := by
    rw [Nat.mul_one, Nat.mul_comm]
  simp only [hwhole, log2_scaled]
  rw [hnum, hden, nearest_mul hpos, nearest_one]
  exact rank_eq rank

theorem rankOf_scaled (rank : Nat) {k : Nat} (hk : k = 1074) :
    rankOf (scaled rank) (Nat.pow 2 k) = rank := by
  unfold rankOf
  rw [← hk]
  exact place_scaled (pow_pos (by decide) k) rank

theorem rankOf_expansion (rank : Nat) {k : Nat} (hk : k = 1074) :
    rankOf (expansion rank) (Nat.pow 10 k) = rank := by
  have hten : Nat.pow 10 k = Nat.pow 5 k * Nat.pow 2 k := Nat.mul_pow 5 2 k
  rw [hten, expansion, ← hk, rankOf_mul (pow_pos (by decide) k), rankOf_scaled rank hk]

end Double

namespace Decimal

/-! ### Zeros at the end -/

theorem toDigits_mul_pow {c : Nat} (hc : 0 < c) (k : Nat) :
    Nat.toDigits 10 (c * Nat.pow 10 k) = Nat.toDigits 10 c ++ List.replicate k '0' := by
  induction k with
  | zero => simp
  | succ k ih =>
    have hpos : 0 < c * Nat.pow 10 k := Nat.mul_pos hc (pow_pos (by decide) k)
    have hnext : c * Nat.pow 10 (k + 1) = 10 * (c * Nat.pow 10 k) + 0 := by
      rw [pow_add, Nat.add_zero, Nat.mul_left_comm 10, Nat.mul_comm 10]
    rw [hnext, ← Nat.toDigits_append_toDigits (by decide) hpos (by decide), ih, Nat.toDigits_zero,
      List.append_assoc, ← List.replicate_succ']

theorem length_toDigits_le {n k : Nat} (hk : 0 < k) :
    (Nat.toDigits 10 n).length ≤ k ↔ n < Nat.pow 10 k :=
  Nat.length_toDigits_le_iff (by decide) hk

theorem lt_length_toDigits {n k : Nat} (hk : 0 < k) :
    k < (Nat.toDigits 10 n).length ↔ Nat.pow 10 k ≤ n := by
  rw [← Nat.not_le, length_toDigits_le hk, Nat.not_lt]

theorem magnitude_shift {c : Nat} (hc : 0 < c) (negative : Bool) (k : Nat) (e : Int) :
    magnitude ⟨negative, c * Nat.pow 10 k, e⟩ = magnitude ⟨negative, c, e + k⟩ := by
  have hlength := congrArg List.length (toDigits_mul_pow hc k)
  rw [List.length_append, List.length_replicate] at hlength
  simp only [magnitude, hlength]
  omega

/-- The double of a ratio with a power of ten above or below. -/
def ratio (d : Decimal) : Option Double :=
  if 0 ≤ d.exponent then
    Double.ofRatio d.negative (d.coefficient * Nat.pow 10 d.exponent.toNat) 1
  else Double.ofRatio d.negative d.coefficient (Nat.pow 10 (-d.exponent).toNat)

theorem ratio_neg (negative : Bool) (c : Nat) {e : Int} {k : Nat} (hk : 0 < k) (he : e = -k) :
    ratio ⟨negative, c, e⟩ = Double.ofRatio negative c (Nat.pow 10 k) := by
  have hneg : ¬0 ≤ e := by omega
  have habs : (-e).toNat = k := by omega
  simp only [ratio, hneg, if_false, habs]

theorem toDouble?_eq_ratio {d : Decimal} (hc : d.coefficient ≠ 0) :
    d.toDouble? = if 400 < d.magnitude then none
      else if d.magnitude < -400 then some (Double.zero d.negative) else d.ratio := by
  rw [toDouble?, if_neg hc]
  rfl

/-- The value that has the rank of a fraction in tenths, if neither bound is passed. -/
theorem toDouble?_of_rankOf {x : Double} {c k : Nat} {e : Int} (hc : c ≠ 0) (hk : 0 < k)
    (he : e = -k) (hhigh : (Nat.toDigits 10 c).length + e ≤ 400)
    (hlow : -400 ≤ (Nat.toDigits 10 c).length + e)
    (hrank : Double.rankOf c (Nat.pow 10 k) = x.rank) : toDouble? ⟨x.negative, c, e⟩ = some x := by
  have hmagnitude : magnitude ⟨x.negative, c, e⟩ = (Nat.toDigits 10 c).length + e := rfl
  rw [toDouble?_eq_ratio hc, hmagnitude, if_neg (by omega), if_neg (by omega), ratio_neg _ _ hk he]
  simp only [Double.ofRatio, hrank, x.finite, dif_pos]

theorem ratio_shift (negative : Bool) (c k : Nat) (e : Int) :
    ratio ⟨negative, c * Nat.pow 10 k, e⟩ = ratio ⟨negative, c, e + k⟩ := by
  unfold ratio
  by_cases he : 0 ≤ e
  · have hsum : (e + k).toNat = k + e.toNat := by omega
    rw [if_pos he, if_pos (by show 0 ≤ e + k; omega), hsum, pow_add, Nat.mul_assoc]
  · by_cases hk : 0 ≤ e + k
    · have hsum : k = (-e).toNat + (e + k).toNat := by omega
      have hnum : c * Nat.pow 10 k =
          Nat.pow 10 (-e).toNat * (c * Nat.pow 10 (e + k).toNat) := by
        rw [Nat.mul_left_comm, ← pow_add, ← hsum]
      rw [if_neg he, if_pos hk, hnum]
      show Double.ofRatio negative _ (Nat.pow 10 (-e).toNat) = _
      rw [← Nat.mul_one (Nat.pow 10 (-e).toNat), Nat.mul_assoc, Nat.one_mul]
      exact Double.ofRatio_mul (pow_pos (by decide) _) ..
    · have hsum : (-e).toNat = k + (-(e + k)).toNat := by omega
      rw [if_neg he, if_neg hk, hsum, pow_add, Nat.mul_comm c]
      exact Double.ofRatio_mul (pow_pos (by decide) k) ..

/-- A zero at the end of the coefficient counts as one in the exponent. -/
theorem toDouble?_shift (negative : Bool) (c k : Nat) (e : Int) :
    toDouble? ⟨negative, c * Nat.pow 10 k, e⟩ = toDouble? ⟨negative, c, e + k⟩ := by
  by_cases hc : c = 0
  · simp [toDouble?, hc]
  · have hpos := Nat.pos_of_ne_zero hc
    have hne : c * Nat.pow 10 k ≠ 0 :=
      Nat.ne_of_gt (Nat.mul_pos hpos (pow_pos (by decide) k))
    rw [toDouble?_eq_ratio hne, toDouble?_eq_ratio hc, magnitude_shift hpos, ratio_shift]

end Decimal

namespace Double

/-! ### The shortest decimal -/

theorem mantissa_pos {rank : Nat} (h : rank ≠ 0) : 0 < mantissa rank := by
  unfold mantissa
  split
  · omega
  · exact Nat.add_pos_left (pow_pos (by decide) 52) _

theorem scaled_lt {rank n : Nat} (h : exponent rank ≤ n) :
    scaled rank < Nat.pow 2 (n + 53) := by
  rw [pow_add]
  exact Nat.mul_lt_mul_of_le_of_lt (pow_le_pow (by decide) h) (mantissa_lt rank)
    (pow_pos (by decide) n)

/-- A product is as long as one of its factors at least, and bounded with the other one. -/
theorem length_mul_between (odd scale : Nat) {j k top : Nat} (hj : 0 < j) (hk : 0 < k)
    (hlow : Nat.pow 10 j ≤ odd) (hhigh : odd * top ≤ Nat.pow 10 k) (hpos : 0 < scale)
    (hscale : scale < top) :
    j < (Nat.toDigits 10 (odd * scale)).length ∧ (Nat.toDigits 10 (odd * scale)).length ≤ k := by
  have hodd : 0 < odd := Nat.lt_of_lt_of_le (pow_pos (by decide) j) hlow
  rw [Decimal.lt_length_toDigits hj, Decimal.length_toDigits_le hk]
  exact ⟨Nat.le_trans hlow (Nat.le_mul_of_pos_right odd hpos),
    Nat.lt_of_lt_of_le (Nat.mul_lt_mul_of_pos_left hscale hodd) hhigh⟩

/-- The digits of an exact value are within the bounds that rounding looks at first. -/
theorem length_expansion {x : Double} (h : x.rank ≠ 0) :
    673 < (Nat.toDigits 10 (expansion x.rank)).length ∧
      (Nat.toDigits 10 (expansion x.rank)).length ≤ 1474 := by
  have hpos : 0 < scaled x.rank := Nat.mul_pos (pow_pos (by decide) _) (mantissa_pos h)
  have hexponent : exponent x.rank ≤ 2045 := by
    have hrank : x.rank < Nat.pow 2 52 * 2047 := x.finite
    have hquotient := Nat.div_lt_of_lt_mul hrank
    unfold exponent
    omega
  rw [expansion]
  exact length_mul_between (Nat.pow 5 1074) (scaled x.rank) (by decide) (by decide)
    (by decide +kernel) (by decide +kernel) hpos (scaled_lt hexponent)

theorem toDouble?_expansion {x : Double} (h : x.rank ≠ 0) :
    Decimal.toDouble? ⟨x.negative, expansion x.rank, -1074⟩ = some x := by
  obtain ⟨hlong, hshort⟩ := length_expansion h
  have hne : expansion x.rank ≠ 0 := by
    intro hzero
    rw [hzero] at hlong
    exact absurd hlong (by decide)
  obtain ⟨k, hk⟩ : ∃ k, k = 1074 := ⟨1074, rfl⟩
  exact Decimal.toDouble?_of_rankOf hne (by omega) (by omega) (by omega) (by omega)
    (rankOf_expansion x.rank hk)

theorem toDouble?_zero {x : Double} (h : x.rank = 0) (e : Int) :
    Decimal.toDouble? ⟨x.negative, 0, e⟩ = some x := by
  obtain ⟨negative, rank, finite⟩ := x
  cases h
  rfl

theorem toDouble?_shortest (x : Double) : x.shortest.toDouble? = some x := by
  unfold shortest
  split
  · exact toDouble?_zero (by assumption) 0
  · dsimp only
    cases hf : fromCandidates x (Nat.toDigits 10 (expansion x.rank)).length (List.range' 1 17) with
    | some d => exact fromCandidates_reads x _ _ d hf
    | none => exact toDouble?_expansion (by assumption)

theorem ofRatio_negative {negative : Bool} {num den : Nat} {x : Double}
    (h : ofRatio negative num den = some x) : x.negative = negative := by
  unfold ofRatio at h
  split at h
  · cases h
    rfl
  · cases h

end Double

/-! ### Whole numbers -/

namespace Double

theorem nearest_le (num den : Nat) : nearest num den ≤ num / den + 1 := by
  unfold nearest
  dsimp only
  repeat' split
  · exact Nat.le_succ _
  · exact Nat.le_refl _
  · exact Nat.le_succ _
  · exact Nat.le_refl _

/-- Fifty-three bits are kept, and rounding may carry once. -/
theorem place_le {units bits : Nat} (top : Nat) (h : units < Nat.pow 2 bits)
    (hbits : bits ≤ top + 53) :
    Nat.pow 2 52 * (units.log2 - 52) + nearest units (Nat.pow 2 (units.log2 - 52)) ≤
      Nat.pow 2 52 * (top + 2) := by
  have hshift : units.log2 - 52 ≤ top := by
    by_cases hzero : units = 0
    · subst hzero
      exact Nat.zero_le _
    · have hlog : units.log2 < bits := (Nat.log2_lt hzero).mpr h
      omega
  have hlt : units < Nat.pow 2 (units.log2 - 52 + 53) :=
    Nat.lt_of_lt_of_le Nat.lt_log2_self (pow_le_pow (by decide) (by omega))
  have hwhole : units / Nat.pow 2 (units.log2 - 52) < Nat.pow 2 53 := by
    refine Nat.div_lt_of_lt_mul ?_
    rwa [← pow_add]
  have hnearest := nearest_le units (Nat.pow 2 (units.log2 - 52))
  have hplace := Nat.mul_le_mul_left (Nat.pow 2 52) hshift
  have hdouble : Nat.pow 2 53 = Nat.pow 2 52 * 2 := rfl
  rw [Nat.mul_add]
  omega

/-- Whole numbers of up to 1023 bits are below the ranks that are not finite. -/
theorem rankOf_lt {n bits : Nat} (hbits : bits ≤ 1023) (h : n < Nat.pow 2 bits) :
    rankOf n 1 < infinityRank := by
  have hunits : ∀ k, Nat.pow 2 k * n < Nat.pow 2 (k + bits) := fun k => by
    rw [pow_add]
    exact Nat.mul_lt_mul_of_pos_left h (pow_pos (by decide) k)
  have hleast := hunits 1074
  unfold rankOf
  generalize Nat.pow 2 1074 = least at hleast
  simp only [Nat.div_one, Nat.mul_one]
  exact Nat.lt_of_le_of_lt (place_le 2044 hleast (by omega)) (by decide)

end Double

namespace Decimal

/-- Whole numbers of up to 400 bits, which have no more digits, have a double. -/
theorem toDouble?_ne_none {n bits : Nat} (hbits : bits ≤ 400) (h : n < Nat.pow 2 bits)
    (negative : Bool) : toDouble? ⟨negative, n, 0⟩ ≠ none := by
  by_cases hzero : n = 0
  · rw [toDouble?, if_pos hzero]
    exact Option.some_ne_none _
  · have hpos : 0 < bits := by
      refine Nat.pos_of_ne_zero fun he => hzero ?_
      subst he
      exact Nat.lt_one_iff.mp h
    have hlength : (Nat.toDigits 10 n).length ≤ bits :=
      (length_toDigits_le hpos).mpr (Nat.lt_of_lt_of_le h (Nat.pow_le_pow_left (by decide) bits))
    have hmagnitude : magnitude ⟨negative, n, 0⟩ = (Nat.toDigits 10 n).length := Int.add_zero _
    have hrank : Double.rankOf (n * Nat.pow 10 0) 1 < infinityRank := by
      rw [show n * Nat.pow 10 0 = n from Nat.mul_one n]
      exact Double.rankOf_lt (by omega) h
    rw [toDouble?_eq_ratio hzero, hmagnitude, if_neg (by omega), if_neg (by omega), ratio,
      if_pos (Int.le_refl 0)]
    exact fun hnone => Option.some_ne_none _ ((dif_pos hrank).symm.trans hnone)

end Decimal

/-- A double has the sign that the decimal has. -/
theorem Decimal.toDouble?_negative {d : Decimal} {x : Double} (h : d.toDouble? = some x) :
    x.negative = d.negative := by
  unfold toDouble? at h
  repeat' split at h
  · cases h
    rfl
  · cases h
  · cases h
    rfl
  · exact Double.ofRatio_negative h
  · exact Double.ofRatio_negative h

end FieldRules
