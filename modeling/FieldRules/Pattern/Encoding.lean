import FieldRules.Text.CharSet

/-! Sets of characters as sequences of byte ranges.

The UTF-8 encodings of an interval of characters are not one range of bytes in
each position, but the interval can be cut into pieces for which they are. Pieces
end where encodings get longer and where the last bytes of an encoding have run
through all their values. -/
namespace FieldRules.Pattern
open Text

structure ByteRange where
  first : Nat
  last : Nat
deriving DecidableEq, Repr

namespace ByteRange

/-- The greatest codes whose encodings take one, two and three bytes, and the last
code before the surrogates. -/
def lastOfLengths : List Nat := [0xD7FF, 0x7F, 0x7FF, 0xFFFF]

/-- Where to cut an interval so that its last `bits` bits run through all their
values in the pieces, if they do not do so in the interval. -/
def alignedCut? (i : Interval) (bits : Nat) : Option Nat :=
  let unit := Nat.pow 2 bits
  if i.first / unit = i.last / unit then none
  else if i.first % unit ≠ 0 then some (i.first / unit * unit + (unit - 1))
  else if i.last % unit ≠ unit - 1 then some (i.last / unit * unit - 1)
  else none

/-- The last code of the first piece, if the interval has to be cut. -/
def cut? (i : Interval) : Option Nat :=
  let aligned := if i.last ≤ 0x7F then [] else [6, 12, 18].filterMap (alignedCut? i)
  (lastOfLengths ++ aligned).find? fun code => i.first ≤ code && code < i.last

/-- The pieces of an interval, in order. A cut leaves less on both of its sides. -/
def pieces (i : Interval) : List Interval :=
  match _h : cut? i with
  | none => [i]
  | some code => pieces ⟨i.first, code⟩ ++ pieces ⟨codeAfter code, i.last⟩
termination_by i.last - i.first
decreasing_by
  all_goals
    have := List.find?_some _h
    simp only [Bool.and_eq_true, decide_eq_true_eq] at this
    grind [codeAfter]

def encoding (code : Nat) : List Nat :=
  (String.utf8EncodeChar (Char.ofNat code)).map UInt8.toNat

/-- The byte ranges of a piece, one for each byte of its characters. -/
def ofPiece (i : Interval) : List ByteRange :=
  (encoding i.first).zipWith ByteRange.mk (encoding i.last)

def sequencesOf (set : CharSet) : List (List ByteRange) :=
  (set.intervals.flatMap pieces).map ofPiece

end ByteRange

/-! ### Sequences with common beginnings -/

/-- The ways on from a place in sequences of byte ranges: by a range to the ways
after it, or else by others. Nothing is left where a sequence has arrived. -/
inductive Ways where
  | arrived
  | nowhere
  | way (range : ByteRange) (next others : Ways)

/-- Sequences beside each other that begin with the same range begin by the same
way, as far as `depth` ranges. -/
def Ways.ofSequences : Nat → List (List ByteRange) → Ways
  | 0, _ => nowhere
  | depth + 1, sequences =>
    (sequences.splitBy fun q r => q.head? = r.head?).foldr
      (fun group others =>
        match group with
        | [[range]] => way range arrived others
        | (range :: rest) :: more =>
          way range (ofSequences depth (rest :: more.map List.tail)) others
        | _ => others)
      nowhere

def greatestLength : Nat := 4

def Ways.ofSet (set : CharSet) : Ways := ofSequences greatestLength (ByteRange.sequencesOf set)

end FieldRules.Pattern
