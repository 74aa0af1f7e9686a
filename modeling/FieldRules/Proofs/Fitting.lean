import FieldRules.Pattern.Room

/-! Patterns for which there is room.

Every part of an automaton takes some room at most, however many of its states were there
already: `Layout.cost` adds up what the parts would take if none of their states were
shared. A part that costs no more than is left is laid out (`Layout.affords_room?`).

`Pattern.fits_of_cost_le`: so a pattern fits if its parts, read forwards and read
backwards, do not cost more than the greatest room. -/
namespace FieldRules.Pattern
open Text

/-! ### Steps that take room -/

namespace Room

@[simp] theorem total_none : none.total = 0 := rfl

theorem total_mk (states extra : Nat) : total ⟨states, extra⟩ = stateRoom * states + extra := rfl

@[simp] theorem total_add (r s : Room) : (r.add s).total = r.total + s.total := by
  simp only [total, add, Nat.mul_add]
  omega

/-- Where there is so much room left, the step is taken, and takes no more. -/
def Affords (step : Room → Option Room) (cost : Nat) : Prop :=
  ∀ r, r.total + cost ≤ greatestRoom → ∃ grown, step r = some grown ∧ grown.total ≤ r.total + cost

variable {step step' : Room → Option Room} {cost cost' : Nat}

theorem grown?_eq_some {r : Room} (more : Room) (h : r.total + more.total ≤ greatestRoom) :
    r.grown? more = some (r.add more) := by
  rw [← total_add] at h
  exact if_pos h

theorem affords_grown? (more : Room) : Affords (·.grown? more) more.total :=
  fun r hr => ⟨r.add more, grown?_eq_some more hr, Nat.le_of_eq (total_add r more)⟩

theorem affords_some : Affords some 0 := fun r _ => ⟨r, rfl, Nat.le_refl _⟩

theorem Affords.mono (h : Affords step cost) (hle : cost ≤ cost') : Affords step cost' := by
  intro r hr
  obtain ⟨grown, hgrown, htotal⟩ := h r (by omega)
  exact ⟨grown, hgrown, by omega⟩

theorem Affords.bind (h : Affords step cost) (h' : Affords step' cost') :
    Affords (fun r => (step r).bind step') (cost + cost') := by
  intro r hr
  obtain ⟨middle, hmiddle, hle⟩ := h r (by omega)
  obtain ⟨grown, hgrown, hle'⟩ := h' middle (by omega)
  refine ⟨grown, ?_, by omega⟩
  dsimp only
  rw [hmiddle, Option.bind_some, hgrown]

theorem Affords.times? (h : Affords step cost) (count : Nat) :
    Affords (Room.times? step count) (count * cost) := by
  induction count with
  | zero =>
    rw [Nat.zero_mul]
    exact affords_some
  | succ count ih =>
    have hstep : Room.times? step (count + 1) =
        fun r => (step r).bind (Room.times? step count) := by
      funext r
      rw [Room.times?]
      cases step r <;> rfl
    rw [hstep, Nat.succ_mul, Nat.add_comm]
    exact h.bind ih

end Room

/-! ### Sets -/

namespace Shared

theorem exists_state? (size extra : Nat) (key : List Nat) {s : Shared}
    (h : s.room.total + (stateRoom + extra) ≤ greatestRoom) :
    ∃ state grown, s.state? size extra key = some (state, grown) ∧
      grown.room.total ≤ s.room.total + (stateRoom + extra) := by
  unfold state?
  dsimp only
  split
  · rename_i hfound
    obtain ⟨found, hslot, -⟩ := (Option.any_eq_true ..).mp hfound
    exact ⟨found.2, s, by rw [hslot]; rfl, Nat.le_add_right ..⟩
  · rw [Room.grown?_eq_some ⟨1, extra⟩ h]
    exact ⟨s.room.states, _, rfl, Nat.le_of_eq (Room.total_add ..)⟩

end Shared

/-- The ways on from a place, which its state has ranges for. -/
def Ways.count : Ways → Nat
  | way _ _ others => others.count + 1
  | _ => 0

/-- A state for each place that is led to. -/
def Ways.cost : Ways → Nat
  | way _ next others => next.cost + (stateRoom + rangeRoom * next.count) + others.cost
  | _ => 0

namespace Shared

/-- The state that a way leads to, which is made if it is not there. -/
def led? (target : Nat) (next : Ways) (s : Shared) : Option (Nat × Shared) :=
  match next with
  | .arrived => some (target, s)
  | next => (forward? target next s).bind fun found =>
    found.2.state? forwardSlots (rangeRoom * (found.1.length / 3)) found.1

theorem forward?_way (target : Nat) (range : ByteRange) (next others : Ways) (s : Shared) :
    forward? target (.way range next others) s =
      (led? target next s).bind fun led =>
        (forward? target others led.2).bind fun found =>
          some (range.first :: range.last :: led.1 :: found.1, found.2) := by
  cases next with
  | arrived => rfl
  | nowhere => rfl
  | way => exact (Option.bind_assoc ..).symm

theorem exists_led? {target : Nat} {next : Ways} {s : Shared}
    (hnext : ∃ key grown, forward? target next s = some (key, grown) ∧
      key.length = 3 * next.count ∧ grown.room.total ≤ s.room.total + next.cost)
    (h : s.room.total + (next.cost + (stateRoom + rangeRoom * next.count)) ≤ greatestRoom) :
    ∃ state grown, led? target next s = some (state, grown) ∧
      grown.room.total ≤ s.room.total + (next.cost + (stateRoom + rangeRoom * next.count)) := by
  obtain ⟨key, s', hforward, hlength, hle⟩ := hnext
  have hcount : key.length / 3 = next.count := by omega
  obtain ⟨state, grown, hstate, hle'⟩ :=
    exists_state? forwardSlots (rangeRoom * next.count) key (s := s') (by omega)
  unfold led?
  split
  · exact ⟨target, s, rfl, Nat.le_add_right ..⟩
  · rw [hforward, Option.bind_some]
    dsimp only
    rw [hcount]
    exact ⟨state, grown, hstate, by omega⟩

theorem exists_forward? (target : Nat) (ways : Ways) {s : Shared}
    (h : s.room.total + ways.cost ≤ greatestRoom) :
    ∃ key grown, forward? target ways s = some (key, grown) ∧ key.length = 3 * ways.count ∧
      grown.room.total ≤ s.room.total + ways.cost := by
  induction ways generalizing s with
  | arrived => exact ⟨[], s, rfl, rfl, Nat.le_add_right ..⟩
  | nowhere => exact ⟨[], s, rfl, rfl, Nat.le_add_right ..⟩
  | way range next others ihnext ihothers =>
    rw [Ways.cost] at h
    obtain ⟨state, s', hled, hle⟩ := exists_led? (ihnext (s := s) (by omega)) (by omega)
    obtain ⟨key, grown, hforward, hlength, hle'⟩ := ihothers (s := s') (by omega)
    refine ⟨range.first :: range.last :: state :: key, grown, ?_, ?_, ?_⟩
    · rw [forward?_way, hled, Option.bind_some, hforward, Option.bind_some]
    · simp only [List.length_cons, hlength, Ways.count]
      omega
    · rw [Ways.cost]
      omega

theorem exists_backward? (next : Nat) (ranges : List ByteRange) {s : Shared}
    (h : s.room.total + (stateRoom * ranges.length + wayRoom) ≤ greatestRoom) :
    ∃ grown, backward? next ranges s = some grown ∧
      grown.room.total ≤ s.room.total + (stateRoom * ranges.length + wayRoom) := by
  induction ranges generalizing next s with
  | nil =>
    rw [backward?, Room.grown?_eq_some ⟨0, wayRoom⟩ h]
    exact ⟨_, rfl, Nat.le_of_eq (Room.total_add ..)⟩
  | cons range rest ih =>
    simp only [List.length_cons, Nat.mul_succ] at h ⊢
    obtain ⟨state, s', hstate, hle⟩ :=
      exists_state? backwardSlots 0 [next, range.first, range.last] (s := s) (by omega)
    obtain ⟨grown, hgrown, hle'⟩ := ih state (s := s') (by omega)
    refine ⟨grown, ?_, by omega⟩
    simp only [backward?, hstate, Option.bind_eq_bind, Option.bind_some, hgrown]

end Shared

/-- The room of the states of each sequence, and of the way out of the fork to it. -/
def ByteRange.cost : List (List ByteRange) → Nat
  | [] => 0
  | q :: rest => stateRoom * q.length + wayRoom + cost rest

theorem Shared.exists_foldlM_backward? (next : Nat) (sequences : List (List ByteRange)) {s : Shared}
    (h : s.room.total + ByteRange.cost sequences ≤ greatestRoom) :
    ∃ grown, sequences.foldlM (fun s q => backward? next q s) s = some grown ∧
      grown.room.total ≤ s.room.total + ByteRange.cost sequences := by
  induction sequences generalizing s with
  | nil => exact ⟨s, rfl, Nat.le_add_right ..⟩
  | cons q rest ih =>
    rw [ByteRange.cost] at h ⊢
    obtain ⟨s', hs', hle⟩ := exists_backward? next q (s := s) (by omega)
    obtain ⟨grown, hgrown, hle'⟩ := ih (s := s') (by omega)
    exact ⟨grown, by rw [List.foldlM_cons, hs']; exact hgrown, by omega⟩

namespace Room

theorem affords_forwards? (ways : Ways) :
    Affords (forwards? ways) (stateRoom + ways.cost + (stateRoom + rangeRoom * ways.count)) := by
  intro r hr
  have hstate : total ⟨1, 0⟩ = stateRoom := rfl
  have hstart : r.grown? ⟨1, 0⟩ = some (r.add ⟨1, 0⟩) := grown?_eq_some _ (by omega)
  have htotal := total_add r ⟨1, 0⟩
  obtain ⟨key, s, hforward, hlength, hle⟩ :=
    Shared.exists_forward? r.states ways (s := ⟨r.add ⟨1, 0⟩, ∅⟩) (by dsimp only; omega)
  have hcount : key.length / 3 = ways.count := by omega
  obtain ⟨state, s', hmade, hle'⟩ :=
    Shared.exists_state? Shared.forwardSlots (rangeRoom * ways.count) key (s := s) (by
      dsimp only at hle
      omega)
  refine ⟨s'.room, ?_, ?_⟩
  · simp only [forwards?, hstart, hforward, hcount, hmade, Option.bind_eq_bind, Option.bind_some]
    rfl
  · dsimp only at hle
    omega

theorem affords_backwards? (sequences : List (List ByteRange)) :
    Affords (backwards? sequences) (2 * stateRoom + ByteRange.cost sequences) := by
  intro r hr
  have hstates : total ⟨2, 0⟩ = 2 * stateRoom := rfl
  have hstart : r.grown? ⟨2, 0⟩ = some (r.add ⟨2, 0⟩) := grown?_eq_some _ (by omega)
  have htotal := total_add r ⟨2, 0⟩
  obtain ⟨s, hs, hle⟩ := Shared.exists_foldlM_backward? (r.states + 1) sequences
    (s := ⟨r.add ⟨2, 0⟩, ∅⟩) (by dsimp only; omega)
  refine ⟨s.room, ?_, ?_⟩
  · simp only [backwards?, hstart, hs, Option.bind_eq_bind, Option.bind_some]
    rfl
  · dsimp only at hle
    omega

end Room

/-! ### Layouts -/

namespace Layout
open Room

/-- A fork with two ways out, and the state where they meet again. -/
def closing : Nat := wayRoom + (2 * stateRoom + 2 * wayRoom)

/-- What a part takes if it shares no state. -/
def cost : Layout → Nat
  | fixed room => room.total
  | forwardSet ways => stateRoom + ways.cost + (stateRoom + rangeRoom * ways.count)
  | backwardSet sequences => 2 * stateRoom + ByteRange.cost sequences
  | seq first rest => first.cost + wayRoom + rest.cost
  | either first rest => (first.cost + wayRoom + closing) + (rest.cost + closing)
  | repeated body least most _ =>
    (least + (most.getD 0 - least) + 1) * (body.cost + wayRoom + (stateRoom + 2 * wayRoom)) +
      (3 * stateRoom + 4 * wayRoom)
  | marked body => stateRoom + (body.cost + wayRoom) + stateRoom
  | apart body => body.cost

/-- What a branch adds to a choice. -/
def Role.cost : Role → Nat
  | .whole => 0
  | _ => closing

theorem affords_leave? (l : Layout) : Affords l.leave? wayRoom := by
  intro r hr
  unfold leave?
  split
  · exact affords_grown? ⟨0, wayRoom⟩ r hr
  · exact ⟨r, rfl, Nat.le_add_right ..⟩

theorem affords_close? (l : Layout) (role : Role) : Affords (l.close? role) role.cost := by
  have hbranch (more : Room) (h : more.total ≤ 2 * stateRoom + 2 * wayRoom) :
      Affords (fun r => do (← l.leave? r).grown? more) closing :=
    ((affords_leave? l).bind (affords_grown? more)).mono (Nat.add_le_add_left h _)
  have hstop : Affords (some : Room → Option Room) closing := affords_some.mono (Nat.zero_le _)
  cases role with
  | whole => exact affords_some
  | second =>
    cases l with
    | either first rest => exact hstop
    | _ => exact hbranch _ (by decide)
  | further =>
    cases l with
    | either first rest => exact hstop
    | _ => exact hbranch _ (by decide)

theorem copies_le (copy choice least more : Nat) :
    least * copy + more * (choice + copy) ≤ (least + more) * (copy + choice) := by
  rw [Nat.add_mul, Nat.add_comm choice]
  exact Nat.add_le_add_right (Nat.mul_le_mul_left least (Nat.le_add_right copy choice)) _

theorem affords_repeated {body : Layout} (h : Affords (body.room? .whole) body.cost) (least : Nat)
    (most : Option Nat) (takesSome : Bool) (role : Role) :
    Affords ((repeated body least most takesSome).room? role)
      ((repeated body least most takesSome).cost + role.cost) := by
  have hcopy := h.bind (affords_leave? body)
  have hclose := affords_close? (repeated body least most takesSome) role
  have hchoice : Affords _ (stateRoom + 2 * wayRoom + (body.cost + wayRoom)) :=
    (affords_grown? ⟨1, 2 * wayRoom⟩).bind hcopy
  have hwhole := h.mono (Nat.le_add_right body.cost wayRoom)
  have hcopies := copies_le (body.cost + wayRoom) (stateRoom + 2 * wayRoom)
  intro r hr
  rw [cost, Nat.succ_mul] at hr ⊢
  rw [room?.eq_def]
  dsimp only
  -- The cases are those of the bounds: any number, from some number on, once or not, and
  -- between two numbers, which may be the same.
  split
  · split
    · refine ((affords_grown? ⟨1, wayRoom⟩).bind (hcopy.bind hclose)).mono ?_ r hr
      simp only [total_mk]
      omega
    · refine (hcopy.bind ((affords_grown? ⟨3, 4 * wayRoom⟩).bind hclose)).mono ?_ r hr
      simp only [total_mk]
      omega
  · refine ((hcopy.times? least).bind ((affords_grown? ⟨1, wayRoom⟩).bind hclose)).mono ?_ r hr
    have := hcopies least 0
    simp only [total_mk, Option.getD_none, Nat.zero_sub] at *
    omega
  · refine ((affords_grown? ⟨1, 2 * wayRoom⟩).bind
      (hcopy.bind ((affords_grown? ⟨1, 0⟩).bind hclose))).mono ?_ r hr
    simp only [total_mk]
    omega
  · rename_i most _
    split
    · refine ((hcopy.times? (least - 1)).bind (hwhole.bind hclose)).mono ?_ r hr
      have := Nat.mul_le_mul (show least - 1 ≤ least + (most - least) by omega)
        (Nat.le_add_right (body.cost + wayRoom) (stateRoom + 2 * wayRoom))
      simp only [Option.getD_some]
      omega
    · have := hcopies least (most - least)
      split
      · refine ((affords_grown? ⟨1, 0⟩).bind ((affords_grown? ⟨1, 0⟩).bind
          ((hchoice.times? (most - least)).bind hclose))).mono ?_ r hr
        simp only [total_mk, Option.getD_some] at *
        omega
      · refine ((hcopy.times? least).bind ((affords_grown? ⟨1, 0⟩).bind
          ((hchoice.times? (most - least)).bind hclose))).mono ?_ r hr
        simp only [total_mk, Option.getD_some] at *
        omega

theorem affords_room? (l : Layout) (role : Role) : Affords (l.room? role) (l.cost + role.cost) := by
  induction l generalizing role with
  | fixed room => exact (affords_grown? room).bind (affords_close? _ role)
  | forwardSet ways => exact (affords_forwards? ways).bind (affords_close? _ role)
  | backwardSet sequences => exact (affords_backwards? sequences).bind (affords_close? _ role)
  | seq first rest ihfirst ihrest =>
    refine Affords.mono ((ihfirst .whole).bind ((affords_leave? first).bind
      ((ihrest .whole).bind (affords_close? (seq first rest) role)))) ?_
    simp only [cost, Role.cost]
    omega
  | either first rest ihfirst ihrest =>
    cases role with
    | whole =>
      refine Affords.mono ((ihfirst .whole).bind ((affords_leave? first).bind
        ((ihrest .second).bind (affords_close? (either first rest) .whole)))) ?_
      simp only [cost, Role.cost]
      omega
    | second =>
      refine Affords.mono ((ihfirst .second).bind ((ihrest .further).bind
        (affords_close? (either first rest) .second))) ?_
      simp only [cost, Role.cost]
      omega
    | further =>
      refine Affords.mono ((ihfirst .further).bind ((ihrest .further).bind
        (affords_close? (either first rest) .further))) ?_
      simp only [cost, Role.cost]
      omega
  | repeated body least most takesSome ih =>
    exact affords_repeated (ih .whole) least most takesSome role
  | marked body ih =>
    refine Affords.mono ((affords_grown? ⟨1, 0⟩).bind ((ih .whole).bind ((affords_leave? body).bind
      ((affords_grown? ⟨1, 0⟩).bind (affords_close? (marked body) role))))) ?_
    simp only [cost, Role.cost, total_mk]
    omega
  | apart body ih => exact (ih .whole).bind (affords_close? _ role)

end Layout

/-! ### Patterns -/

/-- What the whole automaton takes beyond the parts of the pattern. -/
def wholeCost : Nat := 3 * stateRoom + (rangeRoom + 2 * wayRoom) + (wayRoom + stateRoom)

theorem exists_automaton? {p : Pattern} {d : Direction}
    (h : ((group 0 p).layout d false).cost + wholeCost ≤ greatestRoom) :
    ∃ room, p.automaton? d = some room := by
  generalize hwhole : (group 0 p).layout d false = whole at h
  generalize hstart : (if p.isAnchored d then ⟨1, 0⟩ else ⟨3, rangeRoom + 2 * wayRoom⟩ : Room) =
    start
  have hle : start.total ≤ 3 * stateRoom + (rangeRoom + 2 * wayRoom) := by
    rw [← hstart]
    split <;> decide
  have hautomaton := (Room.affords_grown? start).bind ((whole.affords_room? .whole).bind
    (whole.affords_leave?.bind (Room.affords_grown? ⟨1, 0⟩)))
  obtain ⟨room, hroom, -⟩ := hautomaton Room.none (by
    simp only [wholeCost, Layout.Role.cost, Room.total_none, Room.total_mk] at *
    omega)
  refine ⟨room, ?_⟩
  rw [automaton?, hwhole, hstart]
  exact hroom

/-- **A pattern fits** if its parts cost no more than the greatest room, either way. -/
theorem fits_of_cost_le {p : Pattern}
    (h : ∀ d, ((group 0 p).layout d false).cost + wholeCost ≤ greatestRoom) : p.fits = true := by
  obtain ⟨forwards, hforwards⟩ := exists_automaton? (h .forwards)
  obtain ⟨backwards, hbackwards⟩ := exists_automaton? (h .backwards)
  rw [fits, hforwards, hbackwards]
  rfl

end FieldRules.Pattern
