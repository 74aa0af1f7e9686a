import FieldRules.Pattern.Basic
import FieldRules.Pattern.Named

/-! What a pattern matches.

A set of places in a text is a natural number: bit `i` stands for the place before
the `i`th character. `Pattern.along` lays a pattern along a text, which replaces
its sets, literals and assertions by the places where they hold. `Track.ends` then
carries the places where a match may begin to those where it may end, for all of
them at once; a text matches when some match begins and ends in it anywhere. -/
namespace FieldRules
open Text

/-! ### Assertions -/

namespace Pattern

def wordBoundaries : Boundaries := Named.word.boundaries

def isWord (unicode : Bool) (c : Char) : Bool :=
  if unicode && 128 ≤ c.toNat then wordBoundaries.contains c else c.isAlphanum || c = '_'

def WordTest.holds (test : WordTest) (wordBefore wordAfter : Bool) : Bool :=
  match test with
  | edge => wordBefore != wordAfter
  | noEdge => wordBefore == wordAfter
  | start => !wordBefore && wordAfter
  | finish => wordBefore && !wordAfter
  | startHalf => !wordBefore
  | finishHalf => !wordAfter

/-- Whether it holds between two characters, if there are such. Line ends are `\n`,
or with the flag also `\r` and `\r\n`. -/
def Assertion.holds (assertion : Assertion) (before after : Option Char) : Bool :=
  match assertion with
  | textStart => before.isNone
  | textEnd => after.isNone
  | lineStart crlf =>
    before.isNone || before = some '\n' || (crlf && before = some '\r' && after ≠ some '\n')
  | lineEnd false => after.isNone || after = some '\n'
  | lineEnd true =>
    after.isNone || after = some '\r' || (after = some '\n' && before ≠ some '\r')
  | word test unicode => test.holds (before.any (isWord unicode)) (after.any (isWord unicode))

end Pattern

/-! ### Places -/

namespace Places

/-- The places before a character that passes the test. -/
def ofCharacters (test : Char → Bool) : List Char → Nat
  | [] => 0
  | c :: rest => 2 * ofCharacters test rest + (test c).toNat

/-- The places where the literal begins. -/
def ofLiteral (literal : List Char) : List Char → Nat
  | [] => literal.isEmpty.toNat
  | c :: rest => 2 * ofLiteral literal rest + (literal.isPrefixOf (c :: rest)).toNat

/-- The places where a test on the neighbouring characters holds. -/
def ofNeighbours (test : Option Char → Option Char → Bool) (previous : Option Char) :
    List Char → Nat
  | [] => (test previous none).toNat
  | c :: rest => 2 * ofNeighbours test (some c) rest + (test previous (some c)).toNat

/-- Every place of a text. -/
def all (text : List Char) : Nat := Nat.pow 2 (text.length + 1) - 1

/-- A step taken `count` times; it ends early when a step changes nothing. -/
def iterated (step : Nat → Nat) : Nat → Nat → Nat
  | 0, places => places
  | count + 1, places =>
    let next := step places
    if next = places then places else iterated step count next

/-- What a step reaches when taken up to `count` times. -/
def reached (step : Nat → Nat) (count places : Nat) : Nat :=
  iterated (fun seen => seen ||| step seen) count places

end Places

/-! ### Patterns along a text -/

inductive Track where
  | stay
  /-- From these places, over as many characters. -/
  | advance (places length : Nat)
  | check (places : Nat)
  | seq (first rest : Track)
  | either (first rest : Track)
  | repeated (body : Track) (least more : Nat)

namespace Track

def ends : Track → Nat → Nat
  | stay, places => places
  | advance here length, places => (places &&& here) <<< length
  | check here, places => places &&& here
  | seq first rest, places => rest.ends (first.ends places)
  | either first rest, places => first.ends places ||| rest.ends places
  | repeated body least more, places =>
    Places.reached body.ends more (Places.iterated body.ends least places)

end Track

namespace Pattern

/-- A repetition without an upper bound goes on for at most the length of the text. -/
def along (text : List Char) : Pattern → Track
  | empty => .stay
  | literal s => .advance (Places.ofLiteral s text) s.length
  | one set _ =>
    let boundaries := set.boundaries
    .advance (Places.ofCharacters boundaries.contains text) 1
  | look assertion => .check (Places.ofNeighbours assertion.holds none text)
  | seq first rest => .seq (first.along text) (rest.along text)
  | either first rest => .either (first.along text) (rest.along text)
  | repeated body least most _ =>
    .repeated (body.along text) least (match most with
      | some most => most - least
      | none => text.length + 1)
  | group _ body => body.along text

def matchesChars (p : Pattern) (text : List Char) : Bool :=
  (p.along text).ends (Places.all text) != 0

def matchesText (p : Pattern) (text : String) : Bool := p.matchesChars text.toList

end Pattern
end FieldRules
