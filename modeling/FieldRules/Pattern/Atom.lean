import FieldRules.Pattern.Basic
import FieldRules.Pattern.Named
import FieldRules.Text.Blank
import FieldRules.Text.Casing
import FieldRules.Text.Hex

/-! Reading the parts of a pattern that are not made of other patterns.

These are characters, escapes and bracketed sets. A reader carries what is left
of the text, the flags in force, and the names and the number of the groups so
far. Under the verbose flag blanks and comments are skipped wherever `skip`
stands.

Without the Unicode flag a pattern speaks of ASCII: classes are those of ASCII,
and a set with other characters in it is refused. -/
namespace FieldRules.Pattern
open Text

structure Flags where
  ignoreCase : Bool
  multiLine : Bool
  dotAll : Bool
  unicode : Bool
  crlf : Bool
  verbose : Bool
  swapGreed : Bool

namespace Flags

def initial : Flags := ⟨false, false, false, true, false, false, false⟩

def folded (f : Flags) (s : CharSet) : CharSet :=
  if f.ignoreCase then s.closed (if f.unicode then caseFamilies else asciiCaseFamilies) else s

/-- A set under the flags, negated or not. -/
def finished? (f : Flags) (negated : Bool) (s : CharSet) : Option CharSet :=
  if !negated then some (f.folded s)
  else if f.unicode then some (f.folded s).compl
  else none

end Flags

structure State where
  rest : List Char
  flags : Flags
  names : List String
  groups : Nat

abbrev Reader := StateT State Option

/-! ### What comes next -/

def withoutBlanks (inComment : Bool) : List Char → List Char
  | [] => []
  | c :: rest =>
    if inComment then withoutBlanks (c ≠ '\n') rest
    else if isBlank c then withoutBlanks false rest
    else if c = '#' then withoutBlanks true rest
    else c :: rest

def skipped (flags : Flags) (text : List Char) : List Char :=
  if flags.verbose then withoutBlanks false text else text

def skip : Reader Unit := modify fun s => {s with rest := skipped s.flags s.rest}

def ahead : Reader (List Char) := return (← get).rest

def drop (count : Nat) : Reader Unit := modify fun s => {s with rest := s.rest.drop count}

def next : Reader Char := do
  match ← ahead with
  | c :: _ => drop 1; return c
  | [] => failure

/-- Takes the character if it comes next, and says whether it did. -/
def accept (c : Char) : Reader Bool := do
  if (← ahead).head? = some c then drop 1; return true
  else return false

def expect (c : Char) : Reader Unit := do
  if !(← accept c) then failure

/-! ### Escapes -/

inductive Atom where
  /-- A character; `byte` if it was written as two hexadecimal digits. -/
  | literal (c : Char) (byte : Bool)
  | set (s : CharSet)
  | assertion (a : Assertion)

/-- Characters up to the closing one, which is taken too. -/
def upTo (close : Char) : Nat → List Char → Reader (List Char)
  | 0, _ => failure
  | fuel + 1, done => do
    skip
    let c ← next
    if c = close then return done.reverse
    else upTo close fuel (c :: done)

def bracesText : Reader (List Char) := do upTo '\x7d' (← ahead).length []

def someHexDigits : Nat → List Char → Reader (List Char)
  | 0, done => return done.reverse
  | count + 1, done => do
    skip
    someHexDigits count ((← next) :: done)

/-- The character of a code point in hexadecimal, in braces or of fixed length. -/
def hexadecimal (kind : Char) : Reader Atom := do
  skip
  let braced ← accept '\x7b'
  let digits ←
    if braced then bracesText
    else someHexDigits (if kind = 'x' then 2 else if kind = 'u' then 4 else 8) []
  if digits.isEmpty then failure
  let code ← (digitsValue? 16 digits : Option Nat)
  let c ← (charOf? code : Option Char)
  return .literal c (kind = 'x' && !braced)

/-- What stands before and after the first place where the separator does. -/
def cut? (separator : List Char) : List Char → Option (List Char × List Char)
  | [] => none
  | c :: rest =>
    if separator.isPrefixOf (c :: rest) then some ([], (c :: rest).drop separator.length)
    else (cut? separator rest).map fun (before, after) => (c :: before, after)

/-- The set between the braces of a property escape, and whether it is negated
there. -/
def propertySet? (text : List Char) : Option (CharSet × Bool) :=
  match cut? ['!', '='] text with
  | some (property, value) => (Named.ofValue? property value).map (·, true)
  | none =>
    match (cut? [':'] text).orElse fun _ => cut? ['='] text with
    | some (property, value) => (Named.ofValue? property value).map (·, false)
    | none => (Named.ofName? text).map (·, false)

def property (negated : Bool) : Reader Atom := do
  skip
  let text ← if ← accept '\x7b' then bracesText else (fun c => [c]) <$> next
  let flags := (← get).flags
  if !flags.unicode then failure
  let (set, inner) ← (propertySet? text : Option (CharSet × Bool))
  let set ← (flags.finished? (negated != inner) set : Option CharSet)
  return .set set

/-- The set of a class letter; the capital letter negates it. -/
def classLetter? (flags : Flags) (c : Char) : Option CharSet :=
  let set? := match c.toLower with
    | 'd' => some (if flags.unicode then Named.decimalDigit else Named.asciiDigit)
    | 's' => some (if flags.unicode then Named.blank else Named.asciiSpace)
    | 'w' => some (if flags.unicode then Named.word else Named.asciiWord)
    | _ => none
  set?.bind fun set =>
    if !c.isUpper then some set else if flags.unicode then some set.compl else none

def isClassLetter (c : Char) : Bool := ['d', 's', 'w', 'D', 'S', 'W'].contains c

/-- The character that an escaped letter stands for. -/
def control? (c : Char) : Option Char :=
  match c with
  | 'a' => some '\x07'
  | 'f' => some '\x0c'
  | 't' => some '\t'
  | 'n' => some '\n'
  | 'r' => some '\r'
  | 'v' => some '\x0b'
  | _ => none

def isEdgeLetter (c : Char) : Bool := c.isAlpha || c = '-'

def edgeLetters : Nat → List Char → Reader (List Char)
  | 0, _ => failure
  | fuel + 1, done => do
    match ← ahead with
    | c :: _ =>
      if isEdgeLetter c then
        drop 1
        skip
        edgeLetters fuel (c :: done)
      else return done.reverse
    | [] => return done.reverse

def wordTest? (name : String) : Option WordTest :=
  match name with
  | "start" => some .start
  | "end" => some .finish
  | "start-half" => some .startHalf
  | "end-half" => some .finishHalf
  | _ => none

/-- A word edge, and in braces which one. Braces that do not begin with a letter or
a hyphen are left for a repetition. -/
def wordEdge : Reader WordTest := do
  let s ← get
  match s.rest with
  | '\x7b' :: inner =>
    match skipped s.flags inner with
    | [] => failure
    | c :: rest =>
      if !isEdgeLetter c then return .edge
      else
        set {s with rest := c :: rest}
        let name ← edgeLetters s.rest.length []
        expect '\x7d'
        (wordTest? (String.ofList name) : Option WordTest)
  | _ => return .edge

/-- What follows a backslash. -/
def escape : Reader Atom := do
  let c ← next
  let flags := (← get).flags
  if c = 'x' || c = 'u' || c = 'U' then hexadecimal c
  else if c = 'p' || c = 'P' then property (c = 'P')
  else if isClassLetter c then
    let set ← (classLetter? flags c : Option CharSet)
    return .set set
  else if c = '<' then return .assertion (.word .start flags.unicode)
  else if c = '>' then return .assertion (.word .finish flags.unicode)
  else if c.toNat < 128 && !c.isAlphanum then return .literal c false
  else if let some d := control? c then return .literal d false
  else if c = 'A' then return .assertion .textStart
  else if c = 'z' then return .assertion .textEnd
  else if c = 'b' then return .assertion (.word (← wordEdge) flags.unicode)
  else if c = 'B' then return .assertion (.word .noEdge flags.unicode)
  else failure

/-! ### Bracketed sets -/

inductive Operator where
  | inter
  | diff
  | symmDiff

def Operator.apply : Operator → CharSet → CharSet → CharSet
  | inter => CharSet.inter
  | diff => CharSet.diff
  | symmDiff => CharSet.symmDiff

/-- The items read since the last operator, and how deep they nest. -/
structure Operand where
  set : CharSet
  items : Nat
  depth : Nat

namespace Operand

def none : Operand := ⟨CharSet.none, 0, 0⟩

def add (o : Operand) (set : CharSet) (depth : Nat) : Operand :=
  ⟨o.set.union set, o.items + 1, max o.depth depth⟩

/-- Several items are one level deeper than the deepest of them. -/
def nesting (o : Operand) : Nat := if o.items ≤ 1 then o.depth else o.depth + 1

end Operand

/-- The operands so far as one set: what stands to the left of the last operator,
and what stands to its right. -/
def joined (flags : Flags) (left : Option (Operator × CharSet × Nat)) (o : Operand) :
    CharSet × Nat :=
  match left with
  | some (operator, set, depth) =>
    (operator.apply (flags.folded set) (flags.folded o.set), max depth o.nesting + 1)
  | none => (o.set, o.nesting)

/-- A character as a member of a set; without the Unicode flag it must be ASCII. -/
def memberOf? (flags : Flags) (c : Char) : Option Char :=
  if flags.unicode || c.toNat < 128 then some c else none

def setItem : Reader Atom := do
  let c ← next
  if c = '\\' then escape else return .literal c false

/-- A class between colons, if one follows an opening bracket: whether it is
negated, the set, and how many characters it takes. -/
def colonClass? (text : List Char) : Option (Bool × CharSet × Nat) :=
  match text with
  | ':' :: rest =>
    let (negated, rest, taken) := match rest with
      | '^' :: rest => (true, rest, 2)
      | rest => (false, rest, 1)
    let name := rest.takeWhile (· ≠ ':')
    if [':', ']'].isPrefixOf (rest.dropWhile (· ≠ ':')) then
      (Named.asciiClass? (String.ofList name)).map fun set =>
        (negated, set, taken + name.length + 2)
    else none
  | _ => none

/-- The character that says whether a hyphen in front of the text makes a range.
Under the verbose flag blanks and one `#` are passed over to find it, unless
nothing comes after them. -/
def decider? (flags : Flags) (text : List Char) : Option Char :=
  if flags.verbose then
    let ahead := match text.dropWhile isBlank with
      | '#' :: rest => rest.dropWhile isBlank
      | rest => rest
    ahead.head?.or text.head?
  else text.head?

/-- A hyphen after an item makes a range unless a bracket or another hyphen
follows it. -/
def rangeFollows (flags : Flags) (text : List Char) : Bool :=
  match text with
  | '-' :: rest => !((decider? flags rest).any fun c => c = ']' || c = '-')
  | _ => false

/-- An item, or a range between two characters. -/
def setRange : Reader CharSet := do
  let first ← setItem
  skip
  let flags := (← get).flags
  if rangeFollows flags (← ahead) then
    drop 1
    skip
    match first, ← setItem with
    | .literal first _, .literal last _ =>
      let first ← (memberOf? flags first : Option Char)
      let last ← (memberOf? flags last : Option Char)
      if last < first then failure
      return .range first last
    | _, _ => failure
  else
    match first with
    | .literal c _ => return .single (← (memberOf? flags c : Option Char))
    | .set s => return s
    | .assertion _ => failure

/-- The items of a set up to its closing bracket. -/
def setItems (nested : Reader (CharSet × Nat)) :
    Nat → Option (Operator × CharSet × Nat) → Operand → Reader (CharSet × Nat)
  | 0, _, _ => failure
  | fuel + 1, left, o => do
    skip
    let flags := (← get).flags
    let operate (operator : Operator) : Reader (CharSet × Nat) := do
      drop 2
      let (set, depth) := joined flags left o
      setItems nested fuel (some (operator, set, depth)) .none
    match ← ahead with
    | [] => failure
    | ']' :: _ =>
      drop 1
      return joined flags left o
    | '[' :: inner =>
      drop 1
      match colonClass? inner with
      | some (negated, set, taken) =>
        drop taken
        let set ← (flags.finished? negated set : Option CharSet)
        setItems nested fuel left (o.add set 0)
      | none =>
        let (set, depth) ← nested
        setItems nested fuel left (o.add set depth)
    | '&' :: '&' :: _ => operate .inter
    | '-' :: '-' :: _ => operate .diff
    | '~' :: '~' :: _ => operate .symmDiff
    | _ => setItems nested fuel left (o.add (← setRange) 0)

/-- Hyphens in front of the items stand for themselves. -/
def leadingHyphens : Nat → Operand → Reader Operand
  | 0, _ => failure
  | fuel + 1, o => do
    skip
    if ← accept '-' then leadingHyphens fuel (o.add (.single '-') 0) else return o

/-- A set whose opening bracket has been read, and how deep it nests. -/
def bracketed : Nat → Reader (CharSet × Nat)
  | 0 => failure
  | levels + 1 => do
    skip
    let negated ← accept '^'
    let o ← leadingHyphens ((← ahead).length + 1) .none
    let first ← if o.items = 0 then accept ']' else pure false
    let o := if first then o.add (.single ']') 0 else o
    let (set, depth) ← setItems (bracketed levels) ((← ahead).length + 1) none o
    let set ← ((← get).flags.finished? negated set : Option CharSet)
    return (set, depth + 1)

end FieldRules.Pattern
