import FieldRules.Text.CharSet

/-! What a pattern is.

`sequence`, `choice`, `repetition` and `ofSet` build patterns and keep them plain:
a sequence is a list of items none of which is empty or a sequence, and no two
literals stand beside each other in it; a choice is a list of branches none of
which is a choice; a choice between sets is a set; a set of one character is a
literal. What a pattern matches does not depend on that, but the room it takes
does. -/
namespace FieldRules
open Text

namespace Pattern

/-- What words have to do with a place. The halves look at one side of it only. -/
inductive WordTest where
  | edge
  | noEdge
  | start
  | finish
  | startHalf
  | finishHalf
deriving DecidableEq, Repr

inductive Assertion where
  | textStart
  | textEnd
  | lineStart (crlf : Bool)
  | lineEnd (crlf : Bool)
  | word (test : WordTest) (unicode : Bool)
deriving DecidableEq, Repr

end Pattern

inductive Pattern where
  | empty
  | literal (text : List Char)
  /-- A character of the set; whether the set was written under the Unicode flag. -/
  | one (set : CharSet) (unicode : Bool)
  /-- Holds at a place, and takes no character. -/
  | look (assertion : Pattern.Assertion)
  | seq (first rest : Pattern)
  | either (first rest : Pattern)
  | repeated (body : Pattern) (least : Nat) (most : Option Nat) (greedy : Bool)
  | group (number : Nat) (body : Pattern)
deriving DecidableEq, Repr

namespace Pattern

/-- Matches nothing. -/
def never : Pattern := one .none false

def ofSet (set : CharSet) (unicode : Bool) : Pattern :=
  match set.intervals with
  | [] => never
  | [i] => if i.first = i.last then literal [Char.ofNat i.first] else one set unicode
  | _ => one set unicode

/-! ### How much a match takes -/

/-- Every match takes no character. -/
def takesNothing : Pattern → Bool
  | empty => true
  | literal text => text.isEmpty
  | one _ _ => false
  | look _ => true
  | seq first rest => first.takesNothing && rest.takesNothing
  | either first rest => first.takesNothing && rest.takesNothing
  | repeated body _ most _ => most = some 0 || (most.isSome && body.takesNothing)
  | group _ body => body.takesNothing

/-- A number of characters that no match goes below. There is none where some part
of the pattern never matches. -/
def shortest : Pattern → Option Nat
  | empty => some 0
  | literal text => some text.length
  | one set _ => if set.intervals.isEmpty then none else some 1
  | look _ => some 0
  | seq first rest => do return (← first.shortest) + (← rest.shortest)
  | either first rest => do return min (← first.shortest) (← rest.shortest)
  | repeated body least _ _ => body.shortest.map (least * ·)
  | group _ body => body.shortest

/-- Every match is known to take a character. -/
def takesSome (p : Pattern) : Bool := p.shortest.any (0 < ·)

/-! ### Sequences -/

def items : Pattern → List Pattern
  | empty => []
  | seq first rest => first :: rest.items
  | p => [p]

def ofItems : List Pattern → Pattern
  | [] => empty
  | [p] => p
  | p :: rest => seq p (ofItems rest)

/-- An item in front of others; literals are joined. -/
def consItem (p : Pattern) (items : List Pattern) : List Pattern :=
  match p, items with
  | literal s, literal t :: rest => literal (s ++ t) :: rest
  | p, items => p :: items

def sequence (parts : List Pattern) : Pattern := ofItems ((parts.flatMap items).foldr consItem [])

/-! ### Choices -/

def branches : Pattern → List Pattern
  | either first rest => first :: rest.branches
  | p => [p]

def ofBranches : List Pattern → Pattern
  | [] => never
  | [p] => p
  | p :: rest => either p (ofBranches rest)

def character? : Pattern → Option Char
  | literal [c] => some c
  | _ => none

def set? : Pattern → Option CharSet
  | one set _ => some set
  | _ => none

/-- The branches as one pattern, a set if they are all characters or all sets. -/
def united (branches : List Pattern) : Pattern :=
  match branches with
  | [] => never
  | [p] => p
  | branches =>
    match branches.mapM character?, branches.mapM set? with
    | some cs, _ => ofSet (.unions (cs.map .single)) true
    | none, some sets => ofSet (.unions sets) true
    | none, none => ofBranches branches

def sharedItems : List Pattern → List Pattern → List Pattern
  | p :: ps, q :: qs => if p = q then p :: sharedItems ps qs else []
  | _, _ => []

def isSequence : Pattern → Bool
  | seq _ _ => true
  | _ => false

/-- The items that all branches begin with, if these are all sequences. -/
def sharedStart (branches : List Pattern) : List Pattern :=
  match branches with
  | first :: second :: others =>
    if branches.all isSequence then
      (second :: others).foldl (fun shared p => sharedItems shared p.items) first.items
    else []
  | _ => []

/-- A choice between patterns. What all branches begin with stands in front of it. -/
def choice (parts : List Pattern) : Pattern :=
  let branches := parts.flatMap branches
  match sharedStart branches with
  | [] => united branches
  | shared =>
    let rests := branches.map fun p => sequence (p.items.drop shared.length)
    sequence (shared ++ [united (rests.flatMap Pattern.branches)])

/-! ### Repetitions -/

/-- What takes nothing is not repeated more than once. -/
def repetition (body : Pattern) (least : Nat) (most : Option Nat) (greedy : Bool) : Pattern :=
  let (least, most) :=
    if body.takesNothing then (min least 1, some (min (most.getD 1) 1)) else (least, most)
  if most = some 0 then empty
  else if least = 1 && most = some 1 then body
  else repeated body least most greedy

end Pattern
end FieldRules
