import FieldRules.Decimal.Basic

/-! Decimals scaled to doubles.

`Decimal.toDouble?` rounds the exact value of a decimal. `Decimal.estimate?` takes steps
instead: the coefficient is rounded to a double, and the double is multiplied or divided
by the power of ten, which rounds it again. What comes out can be a neighbour of the
nearest double: `5e32` becomes 5.0000000000000004e32.

A numeral does not come with all its digits either: they count as far as they fit in 64
bits (`Decimal.ofDigits`). -/
namespace FieldRules

namespace Double

/-! ### Steps

They go from ranks to ranks, and a sign comes last. -/

/-- The value of that rank, if the rank is finite. -/
def ofRank? (negative : Bool) (rank : Nat) : Option Double :=
  if finite : rank < infinityRank then some ⟨negative, rank, finite⟩ else none

def product (a b : Nat) : Nat :=
  rankOf (scaled a * scaled b) (Nat.pow 2 1074 * Nat.pow 2 1074)

def quotient (a b : Nat) : Nat := rankOf (scaled a) (scaled b)

def powerOfTen (n : Nat) : Nat := rankOf (Nat.pow 10 n) 1

/-- The greatest power of ten that is finite. -/
def greatestPower : Nat := 308

/-- The quotient by a power of ten. One that is not finite is divided by in rounds, of
which each rounds. -/
def scaleDown (rank power : Nat) : Nat :=
  if power ≤ greatestPower then quotient rank (powerOfTen power)
  else if rank = 0 then 0
  else scaleDown (quotient rank (powerOfTen greatestPower)) (power - greatestPower)
termination_by power
decreasing_by simp only [greatestPower] at *; omega

end Double

namespace Decimal
open Double (ofRank? rankOf product powerOfTen greatestPower scaleDown)

/-- The double that a decimal comes to in steps. -/
def estimate? (d : Decimal) : Option Double :=
  let start := rankOf d.coefficient 1
  if d.exponent < 0 then ofRank? d.negative (scaleDown start (-d.exponent).toNat)
  else if d.exponent ≤ greatestPower then
    ofRank? d.negative (product start (powerOfTen d.exponent.toNat))
  else if start = 0 then some (Double.zero d.negative)
  else none

/-! ### Digits -/

/-- Digits that go on a number as long as it fits in 64 bits, and the digits left over. -/
def kept : Nat → List Char → Nat × List Char
  | n, [] => (n, [])
  | n, c :: rest =>
    let next := 10 * n + (c.toNat - '0'.toNat)
    if next < Nat.pow 2 64 then kept next rest else (n, c :: rest)

/-- What is kept of a numeral. A digit left over in front of the point is a power of ten,
and behind the point it does not count. -/
def ofDigits (negative : Bool) (whole fraction : List Char) (power : Int) : Decimal :=
  let (n, left) := kept 0 whole
  let (coefficient, lost) := kept n fraction
  ⟨negative, coefficient, power + left.length - (fraction.length - lost.length : Nat)⟩

end Decimal
end FieldRules
