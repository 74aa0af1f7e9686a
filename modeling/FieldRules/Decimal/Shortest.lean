import FieldRules.Decimal.Basic

/-! The shortest decimal text of a double.

For one, two, … seventeen digits the two decimals next to the value are read
back; the first number of digits at which one of them gives the value again is
enough, and of two that do the nearer one is taken. Because a candidate is
accepted only when it reads back, what is printed reads back
(`fromCandidates_reads`). -/
namespace FieldRules.Double

/-- A positive value is exactly `expansion * 10 ^ -1074`. -/
def expansion (rank : Nat) : Nat := Nat.pow 5 1074 * scaled rank

/-- Whether the decimal gives the value back. -/
def reads (x : Double) (d : Decimal) : Bool := d.toDouble? = some x

/-- The neighbours of a value on the grid of `10 ^ place` units of `10 ^ -1074`,
the nearer one first; of two equally near the even one. -/
def neighbours (x : Double) (place : Nat) : List Decimal :=
  let unit := Nat.pow 10 place
  let below := expansion x.rank / unit
  let twice := 2 * (expansion x.rank % unit)
  let decimal (n : Nat) : Decimal := ⟨x.negative, n, (place : Int) - 1074⟩
  if twice < unit || (twice = unit && below % 2 = 0) then [decimal below, decimal (below + 1)]
  else [decimal (below + 1), decimal below]

/-- Of the candidates, digit count by digit count, the first that reads back. -/
def fromCandidates (x : Double) (length : Nat) : List Nat → Option Decimal
  | [] => none
  | digits :: more =>
    match (neighbours x (length - digits)).find? x.reads with
    | some d => some d
    | none => fromCandidates x length more

theorem fromCandidates_reads (x : Double) (length : Nat) (counts : List Nat) (d : Decimal)
    (h : fromCandidates x length counts = some d) : d.toDouble? = some x := by
  induction counts with
  | nil => cases h
  | cons digits more ih =>
    rw [fromCandidates] at h
    cases hf : (neighbours x (length - digits)).find? x.reads with
    | none => exact ih (by rw [hf] at h; exact h)
    | some found =>
      rw [hf] at h
      cases h
      have hr : x.reads d = true := List.find?_some hf
      exact of_decide_eq_true hr

/-- The shortest decimal that reads back; the exact one stands in for a value
that seventeen digits did not reach, and there is none such. -/
def shortest (x : Double) : Decimal :=
  if x.rank = 0 then ⟨x.negative, 0, 0⟩
  else
    let length := (Nat.toDigits 10 (expansion x.rank)).length
    (fromCandidates x length (List.range' 1 17)).getD ⟨x.negative, expansion x.rank, -1074⟩

/-! ### Layout -/

/-- Digits without the zeros that end them. -/
def significant (digits : List Char) : List Char :=
  (digits.reverse.dropWhile (· = '0')).reverse

/-- The digits with a point after the first `point` of them, padded by zeros on
the side where they run out; a digit always stands on both sides of the point. -/
def plain (digits : List Char) (point : Int) : List Char :=
  if point ≤ 0 then '0' :: '.' :: List.replicate (-point).toNat '0' ++ digits
  else
    let whole := point.toNat
    if digits.length ≤ whole then
      digits ++ List.replicate (whole - digits.length) '0' ++ ['.', '0']
    else digits.take whole ++ '.' :: digits.drop whole

/-- One digit, the others after a point if there are others, and the power of
ten with its sign. -/
def scientific (digits : List Char) (power : Int) : List Char :=
  let exponent := (if power < 0 then '-' else '+') :: Nat.toDigits 10 power.natAbs
  match digits with
  | [] => ['0']
  | [first] => first :: 'e' :: exponent
  | first :: others => first :: '.' :: others ++ 'e' :: exponent

/-- Powers of ten from -5 to 15 are written out. -/
def chars (x : Double) : List Char :=
  let d := x.shortest
  let body :=
    if d.coefficient = 0 then ['0', '.', '0']
    else
      let digits := significant (Nat.toDigits 10 d.coefficient)
      let point := d.magnitude
      if -5 < point && point ≤ 16 then plain digits point else scientific digits (point - 1)
  if x.negative then '-' :: body else body

end FieldRules.Double
