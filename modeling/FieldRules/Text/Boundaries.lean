/-! Tables of numbers, and search in them.

A large set of the character standard is a few hundred intervals. Where characters
are looked up in it, it is the ascending list of its boundaries: a character is in
the set when an odd number of boundaries is at most its code point. The tables
that list boundaries are text, words of base-36 digits giving the distance from
one to the next. -/
namespace FieldRules.Text

/-! ### Numbers and words of a table -/

def digitValue (c : Char) : Nat :=
  if c.isDigit then c.toNat - '0'.toNat else c.toNat - 'a'.toNat + 10

def numeral (base : Nat) (digits : List Char) : Nat :=
  digits.foldl (fun n c => n * base + digitValue c) 0

/-- The words of the lines, in order; single blanks stand between them. -/
def wordsOf (lines : List String) : List (List Char) :=
  lines.flatMap fun line => line.toList.splitOn ' '

def runningSums (gaps : List Nat) : List Nat := (gaps.foldl step (0, [])).2.reverse
where
  step : Nat × List Nat → Nat → Nat × List Nat
    | (total, sums), gap => (total + gap, (total + gap) :: sums)

/-! ### Search -/

/-- How many elements of an ascending array are at most `x`, when those before
`low` are and those from `high` on are not. -/
def countBetween (a : Array Nat) (x low high : Nat) : Nat :=
  if low < high then
    let middle := (low + high) / 2
    if a.getD middle 0 ≤ x then countBetween a x (middle + 1) high
    else countBetween a x low middle
  else low
termination_by high - low

def countUpTo (a : Array Nat) (x : Nat) : Nat := countBetween a x 0 a.size

/-! ### Sets -/

structure Boundaries where
  points : Array Nat

namespace Boundaries

def contains (b : Boundaries) (c : Char) : Bool := countUpTo b.points c.toNat % 2 = 1

end Boundaries
end FieldRules.Text
