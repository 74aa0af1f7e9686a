import FieldRules.Pattern.Atom
import FieldRules.Pattern.Matching
import FieldRules.Pattern.Room
import FieldRules.Text.Letter

/-! Reading a pattern.

A pattern is a choice between sequences of parts, and a part is an atom, a group,
or one of these repeated. Groups nest at most `nestingLimit` deep, which bounds
the recursion of `groupPart`; the limit itself counts every sequence, choice,
repetition, group and bracketed set on the way to the innermost part.

A change of flags is a part too, one that cannot be repeated. It holds to the end
of the group it stands in. -/
namespace FieldRules.Pattern
open Text

def nestingLimit : Nat := 250

/-- The greatest count of a repetition. -/
def greatestCount : Nat := 4294967295

structure Part where
  pattern : Pattern
  depth : Nat
  repeatable : Bool

/-! ### Atoms -/

def Flags.literal? (f : Flags) (c : Char) (byte : Bool) : Option Pattern :=
  if !f.unicode && byte && 128 ≤ c.toNat then none
  else if f.ignoreCase then some (ofSet (f.folded (.single c)) f.unicode)
  else some (literal [c])

def Flags.dot? (f : Flags) : Option Pattern :=
  let lineEnds : CharSet := if f.crlf then .unions [.single '\n', .single '\r'] else .single '\n'
  if !f.unicode then none
  else some (ofSet (if f.dotAll then .any else lineEnds.compl) true)

def atom : Reader Part := do
  let flags := (← get).flags
  let c ← next
  let one (p? : Option Pattern) : Reader Part := do return ⟨← p?, 0, true⟩
  if c = '.' then one flags.dot?
  else if c = '^' then
    one (some (look (if flags.multiLine then .lineStart flags.crlf else .textStart)))
  else if c = '$' then
    one (some (look (if flags.multiLine then .lineEnd flags.crlf else .textEnd)))
  else if c = '\\' then
    match ← escape with
    | .literal c byte => one (flags.literal? c byte)
    | .set s => one (some (ofSet s flags.unicode))
    | .assertion a => one (some (look a))
  else one (flags.literal? c false)

/-! ### Repetitions -/

def countDigits : Nat → List Char → Reader (List Char)
  | 0, done => return done.reverse
  | fuel + 1, done => do
    match ← ahead with
    | c :: _ =>
      if c.isDigit then
        drop 1
        skip
        countDigits fuel (c :: done)
      else return done.reverse
    | [] => return done.reverse

def dropBlanks : Reader Unit := modify fun s => {s with rest := s.rest.dropWhile isBlank}

/-- A count, with blanks around it. -/
def count : Reader Nat := do
  dropBlanks
  let digits ← countDigits (← ahead).length []
  dropBlanks
  skip
  if digits.isEmpty then failure
  let n := Nat.ofDigitChars 10 digits 0
  if greatestCount < n then failure
  return n

/-- The bounds of a repetition whose opening brace has been read. -/
def bounds : Reader (Nat × Option Nat) := do
  skip
  let least ← count
  if ← accept ',' then
    skip
    if ← accept '\x7d' then return (least, none)
    else
      let most ← count
      expect '\x7d'
      if most < least then failure
      return (least, some most)
  else
    expect '\x7d'
    return (least, some least)

/-- The bounds that the next characters give, if they ask for a repetition, and
whether it is greedy: it is not with a question mark after it, and with the flag
for that it is the other way round. -/
def repetition? : Reader (Option (Nat × Option Nat × Bool)) := do
  let bounds? ←
    if ← accept '?' then pure (some (0, some 1))
    else if ← accept '*' then pure (some (0, none))
    else if ← accept '+' then pure (some (1, none))
    else if ← accept '\x7b' then
      let found ← bounds
      skip
      pure (some found)
    else pure none
  match bounds? with
  | none => return none
  | some (least, most) =>
    let lazy ← accept '?'
    return some (least, most, lazy = (← get).flags.swapGreed)

def Part.repeated (p : Part) (least : Nat) (most : Option Nat) (greedy : Bool) : Part :=
  ⟨repetition p.pattern least most greedy, p.depth + 1, true⟩

/-! ### Groups -/

def isNameChar (first : Bool) (c : Char) : Bool :=
  if first then c = '_' || alphabetic c
  else c = '_' || c = '.' || c = '[' || c = ']' || alphanumeric c

/-- The name of a group up to its closing angle; no two groups have one name. -/
def groupName : Reader Unit := do
  let s ← get
  let name := s.rest.takeWhile (· ≠ '>')
  let valid := match name with
    | [] => false
    | c :: rest => isNameChar true c && rest.all (isNameChar false)
  if !valid || s.names.contains (String.ofList name) then failure
  set {s with rest := s.rest.drop name.length, names := String.ofList name :: s.names}
  expect '>'

/-- The flags with the one of that letter set, if there is such a flag. -/
def Flags.set? (f : Flags) (letter : Char) (value : Bool) : Option Flags :=
  match letter with
  | 'i' => some {f with ignoreCase := value}
  | 'm' => some {f with multiLine := value}
  | 's' => some {f with dotAll := value}
  | 'U' => some {f with swapGreed := value}
  | 'u' => some {f with unicode := value}
  | 'R' => some {f with crlf := value}
  | 'x' => some {f with verbose := value}
  | _ => none

/-- Flag letters up to a colon or a closing parenthesis, every letter at most once;
a hyphen unsets those after it. -/
def flagLetters : Nat → List Char → Flags → Reader (List Char × Flags)
  | 0, _, _ => failure
  | fuel + 1, seen, flags => do
    match ← ahead with
    | [] => failure
    | c :: _ =>
      if c = ':' || c = ')' then
        if seen.head? = some '-' then failure
        return (seen, flags)
      else if seen.contains c then failure
      else
        drop 1
        if c = '-' then flagLetters fuel (c :: seen) flags
        else
          let flags ← (flags.set? c (!seen.contains '-') : Option Flags)
          flagLetters fuel (c :: seen) flags

/-! ### Sequences and choices -/

section Body
variable (group : Reader Part)

/-- The parts up to a bar, a closing parenthesis or the end. -/
def parts : Nat → List Part → Reader (List Part)
  | 0, _ => failure
  | fuel + 1, done => do
    skip
    match ← ahead with
    | [] => return done.reverse
    | ')' :: _ => return done.reverse
    | '|' :: _ => return done.reverse
    | '(' :: _ =>
      drop 1
      parts fuel ((← group) :: done)
    | '[' :: _ =>
      drop 1
      let (set, depth) ← bracketed nestingLimit
      parts fuel (⟨ofSet set (← get).flags.unicode, depth, true⟩ :: done)
    | _ =>
      match ← repetition? with
      | some (least, most, greedy) =>
        match done with
        | last :: before =>
          if !last.repeatable then failure
          parts fuel (last.repeated least most greedy :: before)
        | [] => failure
      | none => parts fuel ((← atom) :: done)

def sequenceOf (parts : List Part) : Part :=
  ⟨sequence (parts.map Part.pattern),
    (parts.map Part.depth).foldl max 0 + (if parts.length ≤ 1 then 0 else 1), true⟩

def sequences : Nat → Reader (List Part)
  | 0 => failure
  | fuel + 1 => do
    let first := sequenceOf (← parts group ((← ahead).length + 1) [])
    if ← accept '|' then return first :: (← sequences fuel)
    else return [first]

/-- A choice, or the one sequence that there is. -/
def body : Reader Part := do
  match ← sequences group ((← ahead).length + 1) with
  | [] => failure
  | [only] => return only
  | first :: others =>
    return ⟨choice ((first :: others).map Part.pattern),
      ((first :: others).map Part.depth).foldl max 0 + 1, true⟩

end Body

/-- A group whose opening parenthesis has been read, or a change of flags. -/
def groupPart : Nat → Reader Part
  | 0 => failure
  | levels + 1 => do
    skip
    let outer := (← get).flags
    let inside (wrap : Pattern → Pattern) : Reader Part := do
      let inner ← body (groupPart levels)
      expect ')'
      modify fun s => {s with flags := outer}
      return ⟨wrap inner.pattern, inner.depth + 1, true⟩
    let numbered : Reader Part := do
      let number := (← get).groups + 1
      modify fun s => {s with groups := number}
      inside (Pattern.group number)
    match ← ahead with
    | '?' :: 'P' :: '<' :: _ =>
      drop 3
      groupName
      numbered
    | '?' :: '<' :: c :: _ =>
      if c = '=' || c = '!' then failure
      drop 2
      groupName
      numbered
    | '?' :: _ =>
      drop 1
      let (seen, flags) ← flagLetters ((← ahead).length + 1) [] outer
      modify fun s => {s with flags := flags}
      if ← accept ':' then inside id
      else
        expect ')'
        if seen.isEmpty then failure
        return ⟨.empty, 0, false⟩
    | _ => numbered

/-- The pattern of a text, if it is one within the limits on depth and room. -/
def ofChars? (text : List Char) : Option Pattern := do
  let (whole, s) ← (body (groupPart nestingLimit)).run ⟨text, .initial, [], 0⟩
  if !s.rest.isEmpty || nestingLimit < whole.depth || !whole.pattern.fits then none
  else some whole.pattern

def ofText? (text : String) : Option Pattern := ofChars? text.toList

end FieldRules.Pattern
