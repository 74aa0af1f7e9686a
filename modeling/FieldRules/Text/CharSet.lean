import FieldRules.Text.Boundaries

/-! Sets of characters, as lists of intervals.

The intervals of a set are in order, do not overlap, and do not touch: two that
would touch are one. `CharSet.ofIntervals` puts any intervals into that form, and
the operations on sets keep it. Surrogates are code points but no characters, so
the code points on either side of them are neighbours to `codeAfter` and
`codeBefore`. -/
namespace FieldRules.Text

/-! ### Intervals -/

/-- The code points from `first` to `last`, both included. -/
structure Interval where
  first : Nat
  last : Nat
deriving DecidableEq, Repr

/-- The character's code that follows a code. -/
def codeAfter (code : Nat) : Nat := if code = 0xD7FF then 0xE000 else code + 1

/-- The character's code that precedes a code. -/
def codeBefore (code : Nat) : Nat := if code = 0xE000 then 0xD7FF else code - 1

def greatestCode : Nat := 0x10FFFF

namespace Interval

def ofCount (first count : Nat) : Interval := ⟨first, first + count - 1⟩

/-- The interval between two codes, whichever is the greater. -/
def between (a b : Nat) : Interval := ⟨min a b, max a b⟩

def holds (i : Interval) (code : Nat) : Bool := i.first ≤ code && code ≤ i.last

/-- The two overlap, or one begins right after the other. -/
def touches (i j : Interval) : Bool := max i.first j.first ≤ min i.last j.last + 1

def cover (i j : Interval) : Interval := ⟨min i.first j.first, max i.last j.last⟩

def meet? (i j : Interval) : Option Interval :=
  if max i.first j.first ≤ min i.last j.last then some ⟨max i.first j.first, min i.last j.last⟩
  else none

def comesBefore (i j : Interval) : Bool :=
  i.first < j.first || (i.first = j.first && i.last ≤ j.last)

/-- Intervals of these lengths, one right after the other from zero on. -/
def adjoining (counts : List Nat) : List Interval :=
  (counts.zip (runningSums counts)).map fun (count, sum) => ofCount (sum - count) count

/-! ### Lists of intervals in order -/

/-- Makes one of intervals that touch, the first of them given apart. -/
def mergeInto (i : Interval) : List Interval → List Interval
  | [] => [i]
  | j :: rest => if i.touches j then mergeInto (i.cover j) rest else i :: mergeInto j rest

def merge : List Interval → List Interval
  | [] => []
  | i :: rest => mergeInto i rest

def inter : List Interval → List Interval → List Interval
  | [], _ => []
  | _, [] => []
  | i :: is, j :: js =>
    (i.meet? j).toList ++ (if i.last < j.last then inter is (j :: js) else inter (i :: is) js)
termination_by is js => is.length + js.length

/-- What the first intervals hold and the second do not. -/
def minus : List Interval → List Interval → List Interval
  | [], _ => []
  | is, [] => is
  | i :: is, j :: js =>
    if j.last < i.first then minus (i :: is) js
    else if i.last < j.first then i :: minus is (j :: js)
    else
      let kept := if i.first < j.first then [⟨i.first, codeBefore j.first⟩] else []
      kept ++ (if j.last < i.last then minus (⟨codeAfter j.last, i.last⟩ :: is) js
        else minus is (j :: js))
termination_by is js => is.length + js.length

/-- What lies between the intervals, and after the last of them. -/
def gapsAfter (i : Interval) : List Interval → List Interval
  | [] => if i.last < greatestCode then [⟨codeAfter i.last, greatestCode⟩] else []
  | j :: rest => between (codeAfter i.last) (codeBefore j.first) :: gapsAfter j rest

/-- What lies before, between and after the intervals. Where only the surrogates
part two of them, the gap is taken to be the two characters beside it. -/
def gaps : List Interval → List Interval
  | [] => [⟨0, greatestCode⟩]
  | i :: rest => (if 0 < i.first then [⟨0, codeBefore i.first⟩] else []) ++ gapsAfter i rest

end Interval

/-! ### Sets -/

structure CharSet where
  intervals : List Interval
deriving DecidableEq, Repr

namespace CharSet

def ofIntervals (intervals : List Interval) : CharSet :=
  ⟨Interval.merge (intervals.mergeSort Interval.comesBefore)⟩

def none : CharSet := ⟨[]⟩

def any : CharSet := ⟨[⟨0, greatestCode⟩]⟩

def range (first last : Char) : CharSet := ⟨[⟨first.toNat, last.toNat⟩]⟩

def single (c : Char) : CharSet := range c c

/-- The set between boundaries whose gaps the lines list. -/
def ofGaps (lines : List String) : CharSet :=
  .ofIntervals (pairs (runningSums ((wordsOf lines).map (numeral 36))))
where
  pairs : List Nat → List Interval
    | first :: next :: rest => ⟨first, next - 1⟩ :: pairs rest
    | _ => []

def holds (s : CharSet) (code : Nat) : Bool := s.intervals.any (·.holds code)

def contains (s : CharSet) (c : Char) : Bool := s.holds c.toNat

/-- The same set for searching. -/
def boundaries (s : CharSet) : Boundaries :=
  ⟨(s.intervals.flatMap fun i => [i.first, i.last + 1]).toArray⟩

def union (s t : CharSet) : CharSet := .ofIntervals (s.intervals ++ t.intervals)

def unions (sets : List CharSet) : CharSet := .ofIntervals (sets.flatMap intervals)

def inter (s t : CharSet) : CharSet := ⟨Interval.inter s.intervals t.intervals⟩

def diff (s t : CharSet) : CharSet := ⟨Interval.minus s.intervals t.intervals⟩

/-- What is in one of the two sets and not in the other. -/
def symmDiff (s t : CharSet) : CharSet := (s.union t).diff (s.inter t)

def compl (s : CharSet) : CharSet := ⟨Interval.gaps s.intervals⟩

/-- With each character, the others of its family. -/
def closed (families : List (List Nat)) (s : CharSet) : CharSet :=
  let relatives := (families.filter fun family => family.any s.holds).flatten
  .ofIntervals (s.intervals ++ relatives.map fun code => ⟨code, code⟩)

end CharSet
end FieldRules.Text
