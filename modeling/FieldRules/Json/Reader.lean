import FieldRules.Decimal.Scaling
import FieldRules.Json.Basic
import FieldRules.Text.Hex

/-! Reading a JSON document.

Every reader takes a text and gives what it read together with the rest of the
text, or nothing when the text does not begin with such a thing. Arrays and
objects may nest 127 deep (`nestingLimit`): `value` recurses on how many levels
are left. Of the entries of an object that share a key the last one counts. -/
namespace FieldRules.Json
open Text (hexDigit?)

abbrev Reader (α : Type) := List Char → Option (α × List Char)

def isSpace (c : Char) : Bool := c = ' ' || c = '\n' || c = '\t' || c = '\r'

def skip (text : List Char) : List Char := text.dropWhile isSpace

/-! ### Strings -/

/-- The unit that four hexadecimal digits name. -/
def hexUnit? (a b c d : Char) : Option Nat :=
  match hexDigit? a, hexDigit? b, hexDigit? c, hexDigit? d with
  | some a, some b, some c, some d => some (((a * 16 + b) * 16 + c) * 16 + d)
  | _, _, _, _ => none

def leadsPair (unit : Nat) : Bool := 0xD800 ≤ unit && unit < 0xDC00

def endsPair (unit : Nat) : Bool := 0xDC00 ≤ unit && unit < 0xE000

def ofPair (lead tail : Nat) : Char :=
  Char.ofNat (0x10000 + (lead - 0xD800) * 0x400 + (tail - 0xDC00))

def escape? (c : Char) : Option Char :=
  if c = '"' || c = '\\' || c = '/' then some c
  else if c = 'b' then some '\x08'
  else if c = 'f' then some '\x0c'
  else if c = 'n' then some '\n'
  else if c = 'r' then some '\r'
  else if c = 't' then some '\t'
  else none

/-- The rest of a string whose opening quote has been read, after the characters
in `done`, last one first. -/
def stringRest : List Char → Reader (List Char)
  | _, [] => none
  | done, '"' :: rest => some (done.reverse, rest)
  | done, '\\' :: 'u' :: a :: b :: c :: d :: rest =>
    match hexUnit? a b c d with
    | none => none
    | some unit =>
      if leadsPair unit then
        match rest with
        | '\\' :: 'u' :: e :: f :: g :: h :: rest =>
          match hexUnit? e f g h with
          | none => none
          | some tail => if endsPair tail then stringRest (ofPair unit tail :: done) rest else none
        | _ => none
      else if endsPair unit then none
      else stringRest (Char.ofNat unit :: done) rest
  | done, '\\' :: c :: rest =>
    match escape? c with
    | some c => stringRest (c :: done) rest
    | none => none
  | done, c :: rest => if c.toNat < 32 || c = '\\' then none else stringRest (c :: done) rest

/-! ### Numbers -/

/-- Digits after a point, if there is a point. -/
def fraction : Reader (List Char)
  | '.' :: rest =>
    let digits := rest.takeWhile Char.isDigit
    if digits.isEmpty then none else some (digits, rest.dropWhile Char.isDigit)
  | rest => some ([], rest)

/-- A power of ten, if one is written. -/
def power : Reader (Option Int)
  | c :: rest =>
    if c = 'e' || c = 'E' then
      let (negative, rest) := signed rest
      match natural? (rest.takeWhile Char.isDigit) with
      | some n => some (some (if negative then -(n : Int) else n), rest.dropWhile Char.isDigit)
      | none => none
    else some (none, c :: rest)
  | [] => some (none, [])

/-- Digits alone are an integer when it fits and is not `-0`; anything else is scaled to
a double, and must have one. -/
def ofNumeral (negative : Bool) (whole fraction : List Char) (power : Option Int) :
    Option Number :=
  let value : Int :=
    if negative then -(Nat.ofDigitChars 10 whole 0 : Int) else Nat.ofDigitChars 10 whole 0
  if h : fraction = [] ∧ power = none ∧ Fits64 value ∧ ¬(negative = true ∧ value = 0) then
    some (.integer value h.2.2.1)
  else
    (Decimal.ofDigits negative whole fraction (power.getD 0)).estimate?.map .float

def numeral (text : List Char) : Option (Number × List Char) :=
  let (negative, body) := match text with
    | '-' :: rest => (true, rest)
    | rest => (false, rest)
  let whole := body.takeWhile Char.isDigit
  if whole.isEmpty || (whole.length ≠ 1 && whole.head? = some '0') then none
  else
    match fraction (body.dropWhile Char.isDigit) with
    | none => none
    | some (digits, rest) =>
      match power rest with
      | none => none
      | some (power, rest) => (ofNumeral negative whole digits power).map (·, rest)

/-! ### Lists between brackets -/

/-- Items each after a comma, up to the closing bracket. -/
def more {α : Type} (item : Reader α) (close : Char) : Nat → List α → Reader (List α)
  | 0, _, _ => none
  | fuel + 1, done, text =>
    match skip text with
    | [] => none
    | c :: rest =>
      if c = close then some (done.reverse, rest)
      else if c = ',' then
        match item rest with
        | some (v, rest) => more item close fuel (v :: done) rest
        | none => none
      else none

/-- What stands between an opening bracket, already read, and the closing one.
No list has more items than the text has characters. -/
def bracketed {α : Type} (item : Reader α) (close : Char) (text : List Char) :
    Option (List α × List Char) :=
  match skip text with
  | [] => none
  | c :: rest =>
    if c = close then some ([], rest)
    else
      match item text with
      | some (v, rest) => more item close text.length [v] rest
      | none => none

/-! ### Documents -/

/-- A key, a colon and a value. -/
def entry (value : Reader Json) (text : List Char) : Option ((String × Json) × List Char) :=
  match skip text with
  | '"' :: rest =>
    match stringRest [] rest with
    | some (key, rest) =>
      match skip rest with
      | ':' :: rest => (value rest).map fun (v, rest) => ((String.ofList key, v), rest)
      | _ => none
    | none => none
  | _ => none

/-- A value whose arrays and objects hold what `inner` reads; without `inner` it
must be neither. -/
def valueOver (inner : Option (Reader Json)) (text : List Char) : Option (Json × List Char) :=
  match skip text with
  | '"' :: rest => (stringRest [] rest).map fun (s, rest) => (string (String.ofList s), rest)
  | '[' :: rest =>
    inner.bind fun inner => (bracketed inner ']' rest).map fun (items, rest) => (array items, rest)
  | '\x7b' :: rest =>
    inner.bind fun inner =>
      (bracketed (entry inner) '\x7d' rest).map fun (entries, rest) =>
        (object (Dict.ofList entries), rest)
  | 'n' :: 'u' :: 'l' :: 'l' :: rest => some (null, rest)
  | 't' :: 'r' :: 'u' :: 'e' :: rest => some (bool true, rest)
  | 'f' :: 'a' :: 'l' :: 's' :: 'e' :: rest => some (bool false, rest)
  | text => (numeral text).map fun (n, rest) => (number n, rest)

def value : Nat → Reader Json
  | 0 => valueOver none
  | levels + 1 => valueOver (some (value levels))

def nestingLimit : Nat := 127

def ofChars? (text : List Char) : Option Json :=
  match value nestingLimit text with
  | some (v, rest) => if (skip rest).isEmpty then some v else none
  | none => none

def ofText? (text : String) : Option Json := ofChars? text.toList

end FieldRules.Json
