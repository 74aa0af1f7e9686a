/-! Runs of characters that are mapped alike.

Case mappings come in runs: every character of a run, or every second one, has
its counterpart at the same distance. A `Shift` is such a run. -/
namespace FieldRules.Text

/-- `count` characters from `first` on, `stride` apart, whose counterparts stand at
the same distances from `target`. -/
structure Shift where
  first : Nat
  count : Nat
  stride : Nat
  target : Nat

namespace Shift

def covers (s : Shift) (code : Nat) : Bool :=
  s.first ≤ code && code ≤ s.first + (s.count - 1) * s.stride &&
    (code - s.first) % s.stride = 0

def counterpart (s : Shift) (code : Nat) : Nat := s.target + (code - s.first)

/-- Every character of the run beside its counterpart. -/
def pairs (s : Shift) : List (List Nat) :=
  (List.range s.count).map fun i => [s.first + i * s.stride, s.target + i * s.stride]

end Shift
end FieldRules.Text
