/-! Binary floating point numbers of double precision.

The nonnegative finite values of the format, in ascending order, are numbered
from zero: that number is the `rank`, and it is also what the bits of the value
spell. A value is its rank and a sign, so the order of values is the order of
ranks and two values are the same exactly when sign and rank are.

`scaled` is the exact value times `2 ^ 1074`, the reciprocal of the least
positive one. `rankOf` rounds a ratio of natural numbers to the nearest value,
a tie to the even rank. Everything here is arithmetic on natural numbers. -/
namespace FieldRules

/-- The first rank past the finite values. -/
def infinityRank : Nat := 2047 * Nat.pow 2 52

structure Double where
  negative : Bool
  rank : Nat
  finite : rank < infinityRank
deriving DecidableEq, Repr

namespace Double

/-- A value is `2 ^ exponent * mantissa` units of `2 ^ -1074`. -/
def mantissa (rank : Nat) : Nat :=
  if rank < Nat.pow 2 52 then rank else Nat.pow 2 52 + rank % Nat.pow 2 52

def exponent (rank : Nat) : Nat := rank / Nat.pow 2 52 - 1

def scaled (rank : Nat) : Nat := Nat.pow 2 (exponent rank) * mantissa rank

/-- The nearest integer to `num / den`; a half goes to the even neighbour. -/
def nearest (num den : Nat) : Nat :=
  let whole := num / den
  let twice := 2 * (num % den)
  if twice < den then whole
  else if den < twice then whole + 1
  else if whole % 2 = 0 then whole else whole + 1

/-- The rank of the value nearest to `num / den`, or one past the finite ranks.
The ratio is measured in units of the last place it will keep, and a carry out
of the last place lands on the next power of two by itself. -/
def rankOf (num den : Nat) : Nat :=
  let units := Nat.pow 2 1074 * num
  let shift := Nat.log2 (units / den) - 52
  Nat.pow 2 52 * shift + nearest units (Nat.pow 2 shift * den)

/-- The value of that rank; a ratio too great for the format has none. -/
def ofRatio (negative : Bool) (num den : Nat) : Option Double :=
  if h : rankOf num den < infinityRank then some ⟨negative, rankOf num den, h⟩ else none

def zero (negative : Bool) : Double := ⟨negative, 0, by decide⟩

/-- The order of values, in which the two zeros are one. -/
def key (x : Double) : Int := if x.negative then -(x.rank : Int) else x.rank

def le (x y : Double) : Bool := x.key ≤ y.key

theorem le_refl (x : Double) : x.le x = true := by simp [le]

theorem le_trans (x y z : Double) (h : x.le y = true) (g : y.le z = true) : x.le z = true := by
  simp only [le, decide_eq_true_eq] at *
  omega

theorem le_total (x y : Double) : x.le y = true ∨ y.le x = true := by
  simp only [le, decide_eq_true_eq]
  omega

end Double
end FieldRules
