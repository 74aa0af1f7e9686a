import FieldRules.Text.CharSet
import Mathlib.Tactic.ByContra

/-! Sets of characters for searching.

A set is searched by its boundaries: they are counted up to a code, and their number is odd
inside an interval (`CharSet.exists_points`). The count is found by halving
(`countUpTo_append`), for which the boundaries have to ascend.

`CharSet.contains_boundaries`: then the search finds the characters of the set. -/
namespace FieldRules.Text

/-! ### Halving -/

theorem countBetween_eq {a : Array Nat} {x low high count : Nat} (hlow : low ≤ count)
    (hhigh : count ≤ high) (hbefore : ∀ i < count, a.getD i 0 ≤ x)
    (hafter : ∀ i, count ≤ i → i < high → x < a.getD i 0) :
    countBetween a x low high = count := by
  fun_induction countBetween a x low high with
  | case1 low high hlt middle hle ih =>
    refine ih ?_ hhigh hafter
    by_contra hcount
    exact absurd (hafter middle (by omega) (by omega)) (Nat.not_lt.mpr hle)
  | case2 low high hlt middle hle ih =>
    refine ih hlow ?_ fun i hi hlt => hafter i hi (by omega)
    by_contra hcount
    exact hle (hbefore middle (by omega))
  | case3 low high hge => omega

theorem countUpTo_append {front back : List Nat} {x : Nat} (hfront : ∀ p ∈ front, p ≤ x)
    (hback : ∀ p ∈ back, x < p) : countUpTo (front ++ back).toArray x = front.length := by
  have hget (i : Nat) (hi : i < (front ++ back).length) :
      (front ++ back).toArray.getD i 0 = (front ++ back)[i] := by
    rw [Array.getD, dif_pos (by simpa using hi)]
    simp
  refine countBetween_eq (Nat.zero_le _) (by simp) (fun i hi => ?_) fun i hi hlt => ?_
  · rw [hget i (by simp; omega), List.getElem_append_left hi]
    exact hfront _ (List.getElem_mem hi)
  · have hlt : i < (front ++ back).length := by simpa using hlt
    rw [hget i hlt, List.getElem_append_right hi]
    exact hback _ (List.getElem_mem _)

namespace CharSet

/-! ### Boundaries -/

/-- Where intervals begin, and where what follows them does. -/
def points (intervals : List Interval) : List Nat :=
  intervals.flatMap fun i => [i.first, i.last + 1]

theorem points_cons (i : Interval) (rest : List Interval) :
    points (i :: rest) = i.first :: (i.last + 1) :: points rest := rfl

theorem any_holds_of_lt {intervals : List Interval} {code : Nat}
    (h : ∀ p ∈ points intervals, code < p) : intervals.any (·.holds code) = false := by
  rw [List.any_eq_false]
  intro i hi
  have hfirst := h i.first (List.mem_flatMap.mpr ⟨i, hi, List.mem_cons_self ..⟩)
  simp [Interval.holds, Nat.not_le.mpr hfirst]

/-- Inside an interval an odd number of boundaries is passed, and elsewhere an even one. -/
theorem exists_points {intervals : List Interval} (h : (points intervals).Pairwise (· ≤ ·))
    (code : Nat) :
    ∃ front back, points intervals = front ++ back ∧ (∀ p ∈ front, p ≤ code) ∧
      (∀ p ∈ back, code < p) ∧
      (front.length % 2 = 1 ↔ intervals.any (·.holds code) = true) := by
  induction intervals with
  | nil => exact ⟨[], [], rfl, nofun, nofun, by simp⟩
  | cons i rest ih =>
    rw [points_cons] at h ⊢
    obtain ⟨hfirst, h⟩ := List.pairwise_cons.mp h
    obtain ⟨hlast, h⟩ := List.pairwise_cons.mp h
    have hbegin : i.first ≤ i.last + 1 := hfirst _ (List.mem_cons_self ..)
    by_cases hafter : i.last + 1 ≤ code
    · obtain ⟨front, back, hsplit, hfront, hback, hodd⟩ := ih h
      have hholds : i.holds code = false := by simp [Interval.holds]; omega
      refine ⟨i.first :: (i.last + 1) :: front, back, by rw [hsplit]; rfl, ?_, hback, ?_⟩
      · simpa using ⟨by omega, by omega, hfront⟩
      · rw [List.any_cons, hholds, Bool.false_or, ← hodd]
        simp only [List.length_cons]
        omega
    · have hrest : ∀ p ∈ points rest, code < p := fun p hp =>
        Nat.lt_of_lt_of_le (Nat.not_le.mp hafter) (hlast p hp)
      have hany := any_holds_of_lt hrest
      by_cases hbefore : code < i.first
      · have hholds : i.holds code = false := by simp [Interval.holds, Nat.not_le.mpr hbefore]
        refine ⟨[], _, rfl, nofun, ?_, by simp [hholds, hany]⟩
        exact List.forall_mem_cons.mpr
          ⟨hbefore, List.forall_mem_cons.mpr ⟨Nat.not_le.mp hafter, hrest⟩⟩
      · have hholds : i.holds code = true := by simp [Interval.holds]; omega
        refine ⟨[i.first], _, rfl, by simpa using hbefore, ?_, by simp [hholds]⟩
        exact List.forall_mem_cons.mpr ⟨Nat.not_le.mp hafter, hrest⟩

/-- **Searching a set** finds what is in it, if its boundaries ascend. -/
theorem contains_boundaries {s : CharSet} (h : (points s.intervals).Pairwise (· ≤ ·)) (c : Char) :
    s.boundaries.contains c = s.contains c := by
  obtain ⟨front, back, hsplit, hfront, hback, hodd⟩ := exists_points h c.toNat
  have hcount : countUpTo s.boundaries.points c.toNat = front.length := by
    show countUpTo (points s.intervals).toArray c.toNat = _
    rw [hsplit]
    exact countUpTo_append hfront hback
  rw [Bool.eq_iff_iff, Boundaries.contains, hcount, decide_eq_true_iff, hodd]
  rfl

end CharSet
end FieldRules.Text
