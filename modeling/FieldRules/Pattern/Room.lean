import FieldRules.Pattern.Basic
import FieldRules.Pattern.Encoding
import Std.Data.HashMap

/-! How much room a pattern takes.

Patterns are searched for by automata over bytes, one that reads forwards and one
that reads backwards. A pattern is refused when either takes more than
`greatestRoom`. `Pattern.layout` says what parts an automaton is made of, and
`Layout.room?` adds up the room of its states, which is some for every state, some
for every range of a state that tells bytes apart, and some for every way out of a
fork. Repetitions are written out.

The states for a set of characters are shared where they lead to the same states
by the same bytes. Forwards, states with equal ranges and targets are one;
backwards, the states for equal last bytes are. What may be shared is kept in a
table of limited size, where a state displaces the one that has its slot. -/
namespace FieldRules.Pattern
open Text

/-- The number of states, and what they take beyond `stateRoom` each. -/
structure Room where
  states : Nat
  extra : Nat

def stateRoom : Nat := 32

def rangeRoom : Nat := 8

/-- What a way out of a fork takes. -/
def wayRoom : Nat := 4

def greatestRoom : Nat := 10 * Nat.pow 2 20

namespace Room

def none : Room := ⟨0, 0⟩

def total (r : Room) : Nat := stateRoom * r.states + r.extra

def add (r s : Room) : Room := ⟨r.states + s.states, r.extra + s.extra⟩

/-- More room, if there is so much. -/
def grown? (r more : Room) : Option Room :=
  let grown := r.add more
  if grown.total ≤ greatestRoom then some grown else Option.none

/-- A step taken `count` times. -/
def times? (step : Room → Option Room) : Nat → Room → Option Room
  | 0, r => some r
  | count + 1, r =>
    match step r with
    | Option.none => Option.none
    | some r => times? step count r

end Room

/-! ### Sets -/

/-- Room, and in their slots the shared states by what they were made from. -/
structure Shared where
  room : Room
  slots : Std.HashMap Nat (List Nat × Nat)

namespace Shared

def mixed (h : UInt64) (n : Nat) : UInt64 := (h ^^^ n.toUInt64) * 1099511628211

def slot (size : Nat) (key : List Nat) : Nat :=
  (key.foldl mixed 14695981039346656037).toNat % size

/-- The state made from `key`, a new one unless its slot holds it. -/
def state? (size extra : Nat) (key : List Nat) (s : Shared) : Option (Nat × Shared) :=
  let place := slot size key
  if s.slots[place]?.any fun found => found.1 = key then
    s.slots[place]?.map fun found => (found.2, s)
  else
    let state := s.room.states
    (s.room.grown? ⟨1, extra⟩).map fun room => (state, ⟨room, s.slots.insert place (key, state)⟩)

def forwardSlots : Nat := 10000

def backwardSlots : Nat := 1000

/-- The ways as a key of three numbers each, the last of which is the state that the
way leads to; arrived, it leads to `target`. -/
def forward? (target : Nat) : Ways → Shared → Option (List Nat × Shared)
  | .way range next others, s => do
    let (state, s) ← match next with
      | .arrived => some (target, s)
      | next => do
        let (key, s) ← forward? target next s
        s.state? forwardSlots (rangeRoom * (key.length / 3)) key
    let (key, s) ← forward? target others s
    return (range.first :: range.last :: state :: key, s)
  | _, s => some ([], s)

/-- The states of a sequence from its first range to its last, each leading to the
one before it. -/
def backward? (next : Nat) : List ByteRange → Shared → Option Shared
  | [], s => (s.room.grown? ⟨0, wayRoom⟩).map fun room => {s with room := room}
  | range :: rest, s => do
    let (state, s) ← s.state? backwardSlots 0 [next, range.first, range.last]
    backward? state rest s

end Shared

namespace Room

/-- From the state that has all the ways to the one where they arrive. -/
def forwards? (ways : Ways) (r : Room) : Option Room := do
  let start ← r.grown? ⟨1, 0⟩
  let (key, s) ← Shared.forward? r.states ways ⟨start, ∅⟩
  let (_, s) ← s.state? Shared.forwardSlots (rangeRoom * (key.length / 3)) key
  return s.room

/-- From a fork to the last bytes of all sequences, and from their first bytes to
the state where they arrive. -/
def backwards? (sequences : List (List ByteRange)) (r : Room) : Option Room := do
  let start ← r.grown? ⟨2, 0⟩
  let s ← sequences.foldlM (fun s q => Shared.backward? (r.states + 1) q s) ⟨start, ∅⟩
  return s.room

/-! ### Literals -/

/-- Words that end at once count as one until a longer word comes. -/
def withoutRepeatedEnds : List (List Nat) → List (List Nat)
  | [] :: [] :: words => withoutRepeatedEnds ([] :: words)
  | words => words

/-- The states of a choice between words by their next byte. The words between two
that end here have a state of their own, and a fork leads to these states and to
the end. -/
def ofWords : Nat → List (List Nat) → Room
  | 0, _ => none
  | length + 1, words =>
    let stretches := (withoutRepeatedEnds words).splitOn []
    let kept := stretches.filter fun stretch => !stretch.isEmpty
    let fork : Room := ⟨1, wayRoom * (kept.length + (stretches.length - 1))⟩
    kept.foldl (fun r stretch =>
      let firsts := (stretch.filterMap List.head?).eraseDups
      let own : Room := ⟨1, if firsts.length = 1 then 0 else rangeRoom * firsts.length⟩
      firsts.foldl (fun r first =>
        let rests := (stretch.filter fun word => word.head? = some first).map List.tail
        if rests.all List.isEmpty then r else r.add (ofWords length rests)) (r.add own)) fork

end Room

/-! ### Layouts -/

inductive Direction where
  | forwards
  | backwards
deriving DecidableEq

/-- What an automaton is made of, in the order in which it reads. -/
inductive Layout where
  /-- States that take the same room wherever they are. -/
  | fixed (room : Room)
  | forwardSet (ways : Ways)
  | backwardSet (sequences : List (List ByteRange))
  | seq (first rest : Layout)
  | either (first rest : Layout)
  /-- Whether the body is known to take a character makes a difference to how it is
  repeated without an upper bound. -/
  | repeated (body : Layout) (least : Nat) (most : Option Nat) (takesSome : Bool)
  /-- A part with a state before it and one after it. -/
  | marked (body : Layout)
  /-- A part that stands for itself, so that a choice ends with it and does not go
  on in it. -/
  | apart (body : Layout)

def Direction.layout (d : Direction) (set : CharSet) : Layout :=
  if set.intervals.all fun i => i.last < 128 then
    .fixed ⟨2, rangeRoom * set.intervals.length⟩
  else
    match d with
    | .forwards => .forwardSet (.ofSet set)
    | .backwards => .backwardSet (ByteRange.sequencesOf set)

def Direction.bytesOf (d : Direction) (literal : List Char) : List Nat :=
  let bytes := literal.flatMap fun c => ByteRange.encoding c.toNat
  match d with
  | .forwards => bytes
  | .backwards => bytes.reverse

/-- A choice between literals, whose bytes lead to a state where they meet. -/
def Direction.layoutOfLiterals (d : Direction) (literals : List (List Char)) : Layout :=
  let words := literals.map d.bytesOf
  .fixed (.add ⟨1, 0⟩ (.ofWords ((words.map List.length).foldl max 0) words))

def literalText? : Pattern → Option (List Char)
  | literal text => some text
  | _ => none

/-- The parts of a pattern. `further` is for the branches of a choice after its
first. -/
def layout (d : Direction) (further : Bool) : Pattern → Layout
  | empty => .fixed ⟨1, 0⟩
  | literal text => .fixed ⟨(d.bytesOf text).length, 0⟩
  | one set _ => d.layout set
  | look _ => .fixed ⟨1, 0⟩
  | seq first rest =>
    match d with
    | .forwards => .seq (first.layout d false) (rest.layout d false)
    | .backwards => .seq (rest.layout d false) (first.layout d false)
  | either first rest =>
    match (if further then none else (either first rest).branches.mapM literalText?) with
    | some literals => d.layoutOfLiterals literals
    | none => .either (first.layout d false) (rest.layout d true)
  | repeated body least most _ => .repeated (body.layout d false) least most body.takesSome
  | group _ body =>
    match d with
    | .forwards => .marked (body.layout d false)
    | .backwards => .apart (body.layout d false)

namespace Layout

/-- The last state is a fork, which takes room for what follows it. -/
def endsInFork : Layout → Bool
  | seq _ rest => rest.endsInFork
  | repeated _ least none takesSome => 0 < least || takesSome
  | repeated body least (some most) _ => least = most && body.endsInFork
  | apart body => body.endsInFork
  | _ => false

/-- What leads from the last state on. -/
def leave? (l : Layout) (r : Room) : Option Room :=
  if l.endsInFork then r.grown? ⟨0, wayRoom⟩ else some r

/-- Where a part stands in a choice, if it does. What stands there may be the rest
of the choice. -/
inductive Role where
  | whole
  | second
  | further

/-- What a branch adds when its states are there: the second branch the fork of the
choice and a state where the branches meet, those after it a way out of the fork. -/
def close? (l : Layout) (role : Role) (r : Room) : Option Room :=
  match role, l with
  | .whole, _ => some r
  | _, either _ _ => some r
  | .second, l => do (← l.leave? r).grown? ⟨2, 2 * wayRoom⟩
  | .further, l => do (← l.leave? r).grown? ⟨0, wayRoom⟩

/-- The room with the states of the layout, if there is so much. -/
def room? (role : Role) (l : Layout) (r : Room) : Option Room := do
  let r ← match l with
    | fixed room => r.grown? room
    | forwardSet ways => r.forwards? ways
    | backwardSet sequences => r.backwards? sequences
    | seq first rest => do rest.room? .whole (← first.leave? (← first.room? .whole r))
    | either first rest =>
      match role with
      | .whole => do rest.room? .second (← first.leave? (← first.room? .whole r))
      | role => do rest.room? .further (← first.room? role r)
    | repeated body least most takesSome =>
      let copy (r : Room) : Option Room := do body.leave? (← body.room? .whole r)
      match least, most with
      | 0, none =>
        if takesSome then do copy (← r.grown? ⟨1, wayRoom⟩)
        else do (← copy r).grown? ⟨3, 4 * wayRoom⟩
      | least, none => do (← Room.times? copy least r).grown? ⟨1, wayRoom⟩
      | 0, some 1 => do (← copy (← r.grown? ⟨1, 2 * wayRoom⟩)).grown? ⟨1, 0⟩
      | least, some most =>
        if least = most then do body.room? .whole (← Room.times? copy (least - 1) r)
        else do
          let r ← if least = 0 then r.grown? ⟨1, 0⟩ else Room.times? copy least r
          Room.times? (fun r => do copy (← r.grown? ⟨1, 2 * wayRoom⟩)) (most - least)
            (← r.grown? ⟨1, 0⟩)
    | marked body => do
      (← body.leave? (← body.room? .whole (← r.grown? ⟨1, 0⟩))).grown? ⟨1, 0⟩
    | apart body => body.room? .whole r
  l.close? role r

end Layout

/-! ### Patterns -/

/-- Every match begins where the text does; backwards, ends where it does. -/
def isAnchored (d : Direction) : Pattern → Bool
  | look assertion =>
    match d with
    | .forwards => assertion = .textStart
    | .backwards => assertion = .textEnd
  | seq first rest =>
    match d with
    | .forwards => first.isAnchored d || (first.takesNothing && rest.isAnchored d)
    | .backwards => rest.isAnchored d || (rest.takesNothing && first.isAnchored d)
  | either first rest => first.isAnchored d && rest.isAnchored d
  | repeated body least _ _ => 0 < least && body.isAnchored d
  | group _ body => body.isAnchored d
  | _ => false

/-- The room of the whole automaton. Before the pattern it passes over bytes, unless
that is of no use, and after it there is a state that matches. Forwards, the match
is a group of its own. -/
def automaton? (p : Pattern) (d : Direction) : Option Room := do
  let whole := (group 0 p).layout d false
  let r ← Room.none.grown? (if p.isAnchored d then ⟨1, 0⟩ else ⟨3, rangeRoom + 2 * wayRoom⟩)
  (← whole.leave? (← whole.room? .whole r)).grown? ⟨1, 0⟩

def fits (p : Pattern) : Bool :=
  (p.automaton? .forwards).isSome && (p.automaton? .backwards).isSome

end FieldRules.Pattern
