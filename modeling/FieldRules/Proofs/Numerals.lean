import FieldRules.Json.Reader
import FieldRules.Proofs.Rounding
import Mathlib.Data.List.Basic
import Mathlib.Data.List.TakeWhile

/-! The text of a number, and what is read of it.

An integer is its digits. A double is the digits of its shortest decimal, less the zeros at
their end, with a point among them or a power of ten behind them; wherever the point stands,
the text says a decimal that rounds to the double (`Json.exists_shows`). But a reader does not
round that decimal, it scales it (`Decimal.estimate?`), and can get another double, or none.

`Json.numeral_chars`: what is read of a number (`Number.reread?`) does not depend on what
follows its text, if that could not go on it (`Json.Ends`). `Number.settled_integer`: an
integer is read as itself. -/
namespace FieldRules

/-! ### Digits -/

theorem head?_toDigits {n : Nat} (h : n ≠ 0) : (Nat.toDigits 10 n).head? ≠ some '0' := by
  induction n using Nat.strong_induction_on with
  | _ n ih =>
    by_cases hlt : n < 10
    · rw [Nat.toDigits_of_lt_base hlt, List.head?_cons]
      exact fun he => h (Nat.digitChar_eq_zero.mp (Option.some.inj he))
    · rw [Nat.toDigits_of_base_le (by decide) (Nat.not_lt.mp hlt),
        List.head?_append_of_ne_nil _ Nat.toDigits_ne_nil]
      exact ih (n / 10) (by omega) (by omega)

theorem isDigit_toDigits (n : Nat) : ∀ c ∈ Nat.toDigits 10 n, c.isDigit = true :=
  fun _ hc => Nat.isDigit_of_mem_toDigits (by decide) (by decide) hc

namespace Double

theorem exists_zeros (digits : List Char) :
    ∃ z, digits = significant digits ++ List.replicate z '0' := by
  refine ⟨(digits.reverse.takeWhile (· = '0')).length, ?_⟩
  have hzeros : digits.reverse.takeWhile (· = '0') =
      List.replicate (digits.reverse.takeWhile (· = '0')).length '0' :=
    List.eq_replicate_of_mem fun c hc => by simpa using List.mem_takeWhile_imp hc
  have hsplit := congrArg List.reverse
    (List.takeWhile_append_dropWhile (p := (· = '0')) (l := digits.reverse))
  rw [List.reverse_append, List.reverse_reverse, hzeros, List.reverse_replicate] at hsplit
  exact hsplit.symm

/-- The digits of a coefficient, less the zeros that end it: there are some, the first
is not zero, and with as many zeros they are the coefficient again. -/
theorem significant_toDigits {c : Nat} (hc : c ≠ 0) :
    ∃ first others z, significant (Nat.toDigits 10 c) = first :: others ∧ first ≠ '0' ∧
      (∀ d ∈ first :: others, d.isDigit = true) ∧
      c = Nat.ofDigitChars 10 (first :: others) 0 * Nat.pow 10 z ∧
      (Nat.toDigits 10 c).length = (first :: others).length + z := by
  obtain ⟨z, hz⟩ := exists_zeros (Nat.toDigits 10 c)
  have hhead := head?_toDigits hc
  have hdigits := isDigit_toDigits c
  have hvalue := Nat.ofDigitChars_ten_toDigits (n := c)
  rw [hz, Nat.ofDigitChars_append, Nat.ofDigitChars_replicate_zero, Nat.mul_comm] at hvalue
  cases hs : significant (Nat.toDigits 10 c) with
  | nil =>
    rw [hs, List.nil_append] at hz
    rw [hz] at hhead
    cases z with
    | zero => exact absurd hz Nat.toDigits_ne_nil
    | succ z => exact absurd rfl hhead
  | cons first others =>
    rw [hs] at hz hvalue
    refine ⟨first, others, z, rfl, ?_, ?_, hvalue.symm, ?_⟩
    · rintro rfl
      rw [hz] at hhead
      exact hhead rfl
    · intro d hd
      exact hdigits d (hz ▸ List.mem_append_left _ hd)
    · have hlength := congrArg List.length hz
      rwa [List.length_append, List.length_replicate] at hlength

end Double

namespace Json

/-! ### Parts of a numeral -/

/-- Nothing at the beginning could go on a number. -/
def Ends (text : List Char) : Prop :=
  ∀ c ∈ text.head?, c.isDigit = false ∧ c ≠ '.' ∧ c ≠ 'e' ∧ c ≠ 'E'

theorem takeWhile_isDigit {digits rest : List Char} (h : ∀ c ∈ digits, c.isDigit = true)
    (hrest : ∀ c ∈ rest.head?, c.isDigit = false) :
    (digits ++ rest).takeWhile Char.isDigit = digits ∧
      (digits ++ rest).dropWhile Char.isDigit = rest := by
  rw [List.takeWhile_append_of_pos h, List.dropWhile_append_of_pos h]
  cases rest with
  | nil => simp
  | cons c rest =>
    have hc : c.isDigit = false := hrest c rfl
    simp [hc]

theorem fraction_of_ends {rest : List Char} (h : Ends rest) : fraction rest = some ([], rest) := by
  cases rest with
  | nil => rfl
  | cons c rest =>
    obtain ⟨-, hpoint, -⟩ := h c rfl
    unfold fraction
    split
    · exact absurd (List.cons.inj (by assumption)).1 hpoint
    · rfl

theorem power_of_ends {rest : List Char} (h : Ends rest) : power rest = some (none, rest) := by
  cases rest with
  | nil => rfl
  | cons c rest =>
    obtain ⟨-, -, he, hE⟩ := h c rfl
    simp [power, he, hE]

theorem fraction_point {digits rest : List Char} (h : ∀ c ∈ digits, c.isDigit = true)
    (hne : digits ≠ []) (hrest : ∀ c ∈ rest.head?, c.isDigit = false) :
    fraction ('.' :: (digits ++ rest)) = some (digits, rest) := by
  obtain ⟨htake, hdrop⟩ := takeWhile_isDigit h hrest
  simp [fraction, htake, hdrop, hne]

theorem power_exponent (negative : Bool) (n : Nat) {rest : List Char} (h : Ends rest) :
    power ('e' :: (if negative then '-' else '+') :: (Nat.toDigits 10 n ++ rest)) =
      some (some (if negative then -(n : Int) else n), rest) := by
  obtain ⟨htake, hdrop⟩ := takeWhile_isDigit (isDigit_toDigits n) (fun c hc => (h c hc).1)
  cases negative <;> simp [power, signed, htake, hdrop, natural?_toDigits]

/-- Without its sign a numeral is digits, with no zero before others, and then perhaps a
point with more digits, and perhaps a power of ten. -/
def unsigned (negative : Bool) (body : List Char) : Option (Number × List Char) :=
  let whole := body.takeWhile Char.isDigit
  if whole.isEmpty || (whole.length ≠ 1 && whole.head? = some '0') then none
  else
    match fraction (body.dropWhile Char.isDigit) with
    | none => none
    | some (digits, rest) =>
      match power rest with
      | none => none
      | some (power, rest) => (ofNumeral negative whole digits power).map (·, rest)

theorem numeral_signed (negative : Bool) {body : List Char}
    (hbegins : ∃ c others, body = c :: others ∧ c.isDigit = true) (rest : List Char) :
    numeral ((if negative then '-' :: body else body) ++ rest) =
      unsigned negative (body ++ rest) := by
  obtain ⟨c, others, rfl, hc⟩ := hbegins
  cases negative with
  | true => rfl
  | false =>
    rw [if_neg Bool.false_ne_true]
    unfold numeral
    split
    rename_i negative text heq
    split at heq
    · -- A text that begins with the sign does not begin with a digit.
      rename_i htext
      rw [(List.cons.inj htext).1] at hc
      exact absurd hc (by decide)
    · cases heq
      rfl

theorem unsigned_parts (negative : Bool) {first : Char} {others tail digits later rest : List Char}
    {p : Option Int} (hwhole : ∀ c ∈ first :: others, c.isDigit = true)
    (hlead : others = [] ∨ first ≠ '0') (htail : ∀ c ∈ tail.head?, c.isDigit = false)
    (hfraction : fraction tail = some (digits, later)) (hpower : power later = some (p, rest)) :
    unsigned negative (first :: others ++ tail) =
      (ofNumeral negative (first :: others) digits p).map (·, rest) := by
  obtain ⟨htake, hdrop⟩ := takeWhile_isDigit hwhole htail
  have hzero : (first :: others).length = 1 ∨ (first :: others).head? ≠ some '0' := by
    rcases hlead with rfl | hne
    · exact .inl rfl
    · exact .inr fun he => hne (Option.some.inj he)
  unfold unsigned
  simp only [htake, hdrop, hfraction, hpower]
  rw [if_neg]
  rcases hzero with hone | hne
  · rw [hone]
    simp
  · rw [decide_eq_false hne]
    simp

/-- A text without a sign begins as numerals do, and is read as digits before and behind a
point and as a power of ten, whatever follows that could not go on it. -/
structure Spells (body whole digits : List Char) (p : Option Int) : Prop where
  begins : ∃ c others, body = c :: others ∧ c.isDigit = true
  reads : ∀ (negative : Bool) {rest : List Char}, Ends rest →
    unsigned negative (body ++ rest) = (ofNumeral negative whole digits p).map (·, rest)

theorem Spells.numeral {body whole digits rest : List Char} {p : Option Int}
    (h : Spells body whole digits p) (negative : Bool) (hrest : Ends rest) :
    numeral ((if negative then '-' :: body else body) ++ rest) =
      (ofNumeral negative whole digits p).map (·, rest) := by
  rw [numeral_signed negative h.begins, h.reads negative hrest]

/-! ### Integers -/

theorem exists_toDigits (n : Nat) :
    ∃ first others, Nat.toDigits 10 n = first :: others ∧ (others = [] ∨ first ≠ '0') := by
  cases hd : Nat.toDigits 10 n with
  | nil => exact absurd hd Nat.toDigits_ne_nil
  | cons first others =>
    refine ⟨first, others, rfl, ?_⟩
    by_cases hn : n = 0
    · subst hn
      cases hd
      exact .inl rfl
    · have hhead := head?_toDigits hn
      rw [hd] at hhead
      exact .inr fun he => hhead (congrArg some he)

theorem spells_toDigits (n : Nat) : Spells (Nat.toDigits 10 n) (Nat.toDigits 10 n) [] none := by
  obtain ⟨first, others, hd, hlead⟩ := exists_toDigits n
  have hdigits := isDigit_toDigits n
  rw [hd] at hdigits ⊢
  exact ⟨⟨first, others, rfl, hdigits first (List.mem_cons_self ..)⟩, fun negative _ hrest =>
    unsigned_parts negative hdigits hlead (fun c hc => (hrest c hc).1) (fraction_of_ends hrest)
      (power_of_ends hrest)⟩

theorem signed_natAbs (n : Int) :
    (if decide (n < 0) = true then -(n.natAbs : Int) else n.natAbs) = n := by
  by_cases h : n < 0
  · rw [if_pos (decide_eq_true h)]
    omega
  · rw [decide_eq_false h, if_neg Bool.false_ne_true]
    omega

theorem ofNumeral_integer {value : Int} (fits : Fits64 value) :
    ofNumeral (decide (value < 0)) (Nat.toDigits 10 value.natAbs) [] none =
      some (.integer value fits) := by
  have hvalue := signed_natAbs value
  have hzero : ¬(decide (value < 0) = true ∧ value = 0) := by
    rintro ⟨hneg, rfl⟩
    exact Bool.false_ne_true hneg
  unfold ofNumeral
  simp only [Nat.ofDigitChars_ten_toDigits, hvalue]
  exact dif_pos ⟨trivial, trivial, fits, hzero⟩

theorem chars_integer {value : Int} (fits : Fits64 value) :
    (Number.integer value fits).chars =
      if decide (value < 0) then '-' :: Nat.toDigits 10 value.natAbs
      else Nat.toDigits 10 value.natAbs := by
  by_cases h : value < 0
  · simp [Number.chars, h]
  · have habs : value.toNat = value.natAbs := by omega
    simp [Number.chars, h, habs]

/-! ### Doubles -/

theorem ofNumeral_double (negative : Bool) {whole fraction : List Char} {power : Option Int}
    (h : ¬(fraction = [] ∧ power = none)) :
    ofNumeral negative whole fraction power =
      (Decimal.ofDigits negative whole fraction (power.getD 0)).estimate?.map .float := by
  unfold ofNumeral
  exact dif_neg fun hall => h ⟨hall.1, hall.2.1⟩

/-- The decimal of digits with the point after the first `point` of them, where there may be
fewer digits or the point may stand before all of them. -/
def atPoint (negative : Bool) (digits : List Char) (point : Int) : Decimal :=
  ⟨negative, Nat.ofDigitChars 10 digits 0, point - digits.length⟩

theorem toDouble?_atPoint_zeros (negative : Bool) (digits : List Char) (point : Int) (n : Nat) :
    (atPoint negative (digits ++ List.replicate n '0') point).toDouble? =
      (atPoint negative digits point).toDouble? := by
  have hvalue : Nat.ofDigitChars 10 (digits ++ List.replicate n '0') 0 =
      Nat.ofDigitChars 10 digits 0 * Nat.pow 10 n := by
    rw [Nat.ofDigitChars_append, Nat.ofDigitChars_replicate_zero, Nat.mul_comm]
    rfl
  have hplace : point - ((digits ++ List.replicate n '0').length : Nat) + (n : Int) =
      point - digits.length := by
    rw [List.length_append, List.length_replicate]
    omega
  rw [atPoint, hvalue, Decimal.toDouble?_shift, hplace, atPoint]

theorem atPoint_zeros_append (negative : Bool) (digits : List Char) (point : Int) (n : Nat) :
    atPoint negative (List.replicate n '0' ++ digits) (point + n) =
      atPoint negative digits point := by
  have hvalue : Nat.ofDigitChars 10 (List.replicate n '0' ++ digits) 0 =
      Nat.ofDigitChars 10 digits 0 := by
    rw [Nat.ofDigitChars_append, Nat.ofDigitChars_replicate_zero, Nat.mul_zero]
  have hplace : point + n - ((List.replicate n '0' ++ digits).length : Nat) =
      point - digits.length := by
    rw [List.length_append, List.length_replicate]
    omega
  rw [atPoint, hvalue, hplace, atPoint]

theorem isDigit_zeros (n : Nat) : ∀ c ∈ List.replicate n '0', c.isDigit = true :=
  fun _ hc => (List.eq_of_mem_replicate hc).symm ▸ rfl

theorem ends_of_not_digit {c : Char} {rest : List Char} (h : c.isDigit = false) :
    ∀ d ∈ (c :: rest).head?, d.isDigit = false := by
  rintro d hd
  cases hd
  exact h

section
variable {first : Char} {others : List Char} (hdigits : ∀ c ∈ first :: others, c.isDigit = true)
include hdigits

theorem spells_point (hlead : others = [] ∨ first ≠ '0') {digits : List Char}
    (hfraction : ∀ c ∈ digits, c.isDigit = true) (hne : digits ≠ []) :
    Spells (first :: others ++ '.' :: digits) (first :: others) digits none := by
  refine ⟨⟨first, _, rfl, hdigits first (List.mem_cons_self ..)⟩, fun negative rest hrest => ?_⟩
  rw [List.append_assoc, List.cons_append]
  exact unsigned_parts negative hdigits hlead (ends_of_not_digit rfl)
    (fraction_point hfraction hne fun c hc => (hrest c hc).1) (power_of_ends hrest)

/-- The point stands before all digits, and zeros between. -/
theorem spells_front (n : Nat) :
    Spells ('0' :: '.' :: List.replicate n '0' ++ first :: others) ['0']
      (List.replicate n '0' ++ first :: others) none :=
  spells_point (isDigit_zeros 1) (.inl rfl) (fun c hc =>
    (List.mem_append.mp hc).elim (isDigit_zeros n c) (hdigits c)) (by simp)

/-- The point stands behind all digits, and zeros between. -/
theorem spells_behind (hlead : first ≠ '0') (n : Nat) :
    Spells (first :: others ++ List.replicate n '0' ++ ['.', '0'])
      (first :: others ++ List.replicate n '0') ['0'] none := by
  have hpadded : ∀ c ∈ first :: (others ++ List.replicate n '0'), c.isDigit = true := by
    rw [← List.cons_append]
    exact fun c hc => (List.mem_append.mp hc).elim (hdigits c) (isDigit_zeros n c)
  exact spells_point hpadded (.inr hlead) (isDigit_zeros 1) (by simp)

/-- The point stands among the digits. -/
theorem spells_among (hlead : first ≠ '0') {n : Nat} (hn : n < others.length) :
    Spells ((first :: others).take (n + 1) ++ '.' :: (first :: others).drop (n + 1))
      ((first :: others).take (n + 1)) ((first :: others).drop (n + 1)) none := by
  have htake : ∀ c ∈ first :: others.take n, c.isDigit = true := fun c hc =>
    hdigits c (List.mem_of_mem_take (i := n + 1) hc)
  have hdrop : ∀ c ∈ others.drop n, c.isDigit = true := fun c hc =>
    hdigits c (List.mem_of_mem_drop (i := n + 1) hc)
  have hsome : others.drop n ≠ [] := fun he =>
    Nat.not_le.mpr hn (List.drop_eq_nil_iff.mp he)
  exact spells_point htake (.inr hlead) hdrop hsome

/-- Written out with a point, the digits have the value that they are to have, but for zeros
at their end. -/
theorem spells_plain (hlead : first ≠ '0') (point : Int) :
    ∃ whole fraction zeros, Spells (Double.plain (first :: others) point) whole fraction none ∧
      fraction ≠ [] ∧
      (∀ negative, atPoint negative (whole ++ fraction) whole.length =
        atPoint negative (first :: others ++ List.replicate zeros '0') point) ∧
      (zeros = 0 ∨ ((first :: others).length : Int) + zeros = point + 1) := by
  unfold Double.plain
  by_cases hfront : point ≤ 0
  · have hplace : ((['0'] : List Char).length : Int) = point + ((-point).toNat + 1 : Nat) := by
      rw [List.length_singleton]
      omega
    rw [if_pos hfront]
    refine ⟨_, _, 0, spells_front hdigits _, by simp, fun negative => ?_, .inl rfl⟩
    rw [hplace, List.replicate_zero, List.append_nil]
    exact atPoint_zeros_append negative (first :: others) point ((-point).toNat + 1)
  · obtain ⟨n, rfl⟩ : ∃ n : Nat, point = (n + 1 : Nat) := ⟨point.toNat - 1, by omega⟩
    rw [if_neg hfront]
    simp only [Int.toNat_natCast]
    by_cases hbehind : (first :: others).length ≤ n + 1
    · have hlength : (first :: others ++
          List.replicate (n + 1 - (first :: others).length) '0').length = n + 1 := by
        rw [List.length_append, List.length_replicate]
        omega
      rw [if_pos hbehind]
      refine ⟨_, _, n + 1 - (first :: others).length + 1, spells_behind hdigits hlead _, by simp,
        fun negative => ?_, .inr (by omega)⟩
      rw [hlength, List.append_assoc, List.replicate_succ']
    · have hn : n < others.length := by
        rw [List.length_cons] at hbehind
        omega
      have hlength : ((first :: others).take (n + 1)).length = n + 1 := by
        rw [List.length_take, List.length_cons, Nat.min_eq_left (Nat.succ_lt_succ hn).le]
      rw [if_neg hbehind]
      refine ⟨_, _, 0, spells_among hdigits hlead hn, ?_, fun negative => ?_, .inl rfl⟩
      · exact fun he => Nat.not_le.mpr hn (Nat.le_of_succ_le_succ (List.drop_eq_nil_iff.mp he))
      · rw [hlength, List.take_append_drop, List.replicate_zero, List.append_nil]

/-- With a power of ten the point stands behind the first digit, if there is another. -/
theorem spells_scientific (power : Int) :
    Spells (Double.scientific (first :: others) power) [first] others (some power) := by
  have hdigit := hdigits first (List.mem_cons_self ..)
  have hfirst : ∀ c ∈ [first], c.isDigit = true := fun c hc => List.mem_singleton.mp hc ▸ hdigit
  have hpower {rest : List Char} (hrest : Ends rest) :
      Json.power ('e' :: ((if power < 0 then '-' else '+') :: Nat.toDigits 10 power.natAbs) ++
        rest) = some (some power, rest) := by
    have hread := power_exponent (decide (power < 0)) power.natAbs hrest
    rw [signed_natAbs] at hread
    simpa only [decide_eq_true_eq, List.cons_append] using hread
  cases others with
  | nil =>
    refine ⟨⟨first, _, rfl, hdigit⟩, fun negative rest hrest => ?_⟩
    exact unsigned_parts negative hfirst (.inl rfl) (ends_of_not_digit rfl) rfl (hpower hrest)
  | cons second others =>
    have hothers : ∀ c ∈ second :: others, c.isDigit = true := fun c hc =>
      hdigits c (List.mem_cons_of_mem first hc)
    refine ⟨⟨first, _, rfl, hdigit⟩, fun negative rest hrest => ?_⟩
    have hread := unsigned_parts negative hfirst (.inl rfl) (ends_of_not_digit rfl)
      (fraction_point hothers (by simp) (ends_of_not_digit rfl)) (hpower hrest)
    simpa [Double.scientific] using hread

end

/-- The digits of a positive double: they have its value with the point after as many of them
as its magnitude says. -/
theorem exists_digits {x : Double} (hc : x.shortest.coefficient ≠ 0) :
    ∃ first others, Double.significant (Nat.toDigits 10 x.shortest.coefficient) = first :: others ∧
      first ≠ '0' ∧ (∀ c ∈ first :: others, c.isDigit = true) ∧
      (first :: others).length ≤ (Nat.toDigits 10 x.shortest.coefficient).length ∧
      (atPoint x.negative (first :: others) x.shortest.magnitude).toDouble? = some x := by
  have hread := x.toDouble?_shortest
  obtain ⟨first, others, z, hs, hlead, hdigits, hvalue, hlength⟩ := Double.significant_toDigits hc
  have hplace : x.shortest.magnitude - ((first :: others).length : Nat) =
      x.shortest.exponent + z := by
    rw [Decimal.magnitude, hlength]
    omega
  refine ⟨first, others, hs, hlead, hdigits, by omega, ?_⟩
  rw [atPoint, hplace, ← Decimal.toDouble?_shift, ← hvalue, Decimal.toDouble?_negative hread]
  exact hread

theorem spells_zero : Spells ['0', '.', '0'] ['0'] ['0'] none :=
  spells_point (isDigit_zeros 1) (.inl rfl) (isDigit_zeros 1) (by simp)

/-- The text of a double is a numeral, and not an integer; exactly what it says rounds to the
double. Its digits are no more than those of the shortest decimal, or one is behind the point. -/
structure Shows (x : Double) (whole fraction : List Char) (power : Option Int) : Prop where
  chars : ∃ body, x.chars = (if x.negative then '-' :: body else body) ∧
    Spells body whole fraction power
  float : ¬(fraction = [] ∧ power = none)
  exact : ∃ digits, (∀ c ∈ digits, c.isDigit = true) ∧
    atPoint x.negative (whole ++ fraction) (whole.length + power.getD 0) =
      atPoint x.negative digits x.shortest.magnitude ∧
    (atPoint x.negative digits x.shortest.magnitude).toDouble? = some x ∧
    (digits.length ≤ (Nat.toDigits 10 x.shortest.coefficient).length ∨
      (digits.length : Int) = x.shortest.magnitude + 1)

theorem exists_shows (x : Double) : ∃ whole fraction power, Shows x whole fraction power := by
  by_cases hc : x.shortest.coefficient = 0
  · have hread := x.toDouble?_shortest
    rw [Decimal.toDouble?, if_pos hc] at hread
    have hrank : x.rank = 0 := (congrArg Double.rank (Option.some.inj hread)).symm
    have hmagnitude : x.shortest.magnitude = 1 := by
      rw [Double.shortest, if_pos hrank, Decimal.magnitude, Nat.toDigits_zero]
      rfl
    refine ⟨['0'], ['0'], none, ⟨_, by simp only [Double.chars, if_pos hc], spells_zero⟩, by simp,
      ['0', '0'], isDigit_zeros 2, by rw [hmagnitude]; rfl, ?_, .inr (by rw [hmagnitude]; rfl)⟩
    exact Double.toDouble?_zero hrank _
  · obtain ⟨first, others, hs, hlead, hdigits, hlength, hexact⟩ := exists_digits hc
    by_cases hplain : -5 < x.shortest.magnitude ∧ x.shortest.magnitude ≤ 16
    · obtain ⟨whole, fraction, zeros, hspells, hne, hplaced, hzeros⟩ :=
        spells_plain hdigits hlead x.shortest.magnitude
      refine ⟨whole, fraction, none, ⟨_, ?_, hspells⟩, fun hall => hne hall.1,
        first :: others ++ List.replicate zeros '0', ?_, ?_, ?_, ?_⟩
      · simp only [Double.chars, if_neg hc, hs, hplain.1, hplain.2, decide_true, Bool.and_true,
          if_true]
      · exact fun c hc => (List.mem_append.mp hc).elim (hdigits c) (isDigit_zeros zeros c)
      · rw [Option.getD_none, Int.add_zero, hplaced]
      · rw [toDouble?_atPoint_zeros, hexact]
      · rw [List.length_append, List.length_replicate]
        omega
    · refine ⟨[first], others, some (x.shortest.magnitude - 1),
        ⟨_, ?_, spells_scientific hdigits _⟩, by simp, first :: others, hdigits, ?_, hexact,
        .inl hlength⟩
      · have hscientific : (decide (-5 < x.shortest.magnitude) &&
            decide (x.shortest.magnitude ≤ 16)) = false := by
          simpa only [← Bool.decide_and, decide_eq_false_iff_not] using hplain
        simp only [Double.chars, if_neg hc, hs, hscientific, Bool.false_eq_true, if_false]
      · rw [Option.getD_some, List.length_singleton, List.singleton_append,
          show ((1 : Nat) : Int) + (x.shortest.magnitude - 1) = x.shortest.magnitude by omega]

end Json

/-! ### Numbers -/

/-- The number that is read of the text of a number. -/
def Number.reread? (n : Number) : Option Number := (Json.numeral n.chars).map Prod.fst

/-- A number is settled when its text is read as that number. -/
def Number.Settled (n : Number) : Prop := n.reread? = some n

instance (n : Number) : Decidable n.Settled := inferInstanceAs (Decidable (_ = _))

namespace Json

theorem exists_spells (n : Number) :
    ∃ (negative : Bool) (body whole fraction : List Char) (power : Option Int),
      n.chars = (if negative then '-' :: body else body) ∧ Spells body whole fraction power := by
  cases n with
  | integer value fits =>
    exact ⟨_, _, _, _, _, chars_integer fits, spells_toDigits value.natAbs⟩
  | float x =>
    obtain ⟨whole, fraction, power, hshows⟩ := exists_shows x
    obtain ⟨body, hchars, hspells⟩ := hshows.chars
    exact ⟨_, _, _, _, _, hchars, hspells⟩

/-- **Numbers read back.** What is read of a number from its text does not depend on what
follows, which is left. -/
theorem numeral_chars (n : Number) {rest : List Char} (h : Ends rest) :
    numeral (n.chars ++ rest) = n.reread?.map (·, rest) := by
  obtain ⟨negative, body, whole, fraction, power, hchars, hspells⟩ := exists_spells n
  have hends : Ends [] := fun c hc => nomatch hc
  have halone := hspells.numeral negative hends
  rw [List.append_nil] at halone
  rw [Number.reread?, hchars, halone, hspells.numeral negative h, Option.map_map, Option.map_map]
  rfl

end Json

/-- An integer is settled. -/
theorem Number.settled_integer {value : Int} (fits : Fits64 value) :
    (Number.integer value fits).Settled := by
  have hends : Json.Ends [] := fun c hc => nomatch hc
  have hread := (Json.spells_toDigits value.natAbs).numeral (decide (value < 0)) hends
  rw [List.append_nil, ← Json.chars_integer fits, Json.ofNumeral_integer fits] at hread
  rw [Settled, reread?, hread]
  rfl

end FieldRules
