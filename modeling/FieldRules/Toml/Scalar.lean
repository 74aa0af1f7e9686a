import FieldRules.Text.Hex
import FieldRules.Toml.Basic

/-! Reading strings, numbers and dates.

Every reader takes a text and gives what it read together with the rest of the
text. What begins like a date must be one, so none of these ever has to try again
as something else. -/
namespace FieldRules.Toml
open Text

abbrev Reader := StateT (List Char) Option

def ahead : Reader (List Char) := get

def next : Reader Char := fun
  | c :: rest => some (c, rest)
  | [] => none

/-- Takes the character if it comes next, and says whether it did. -/
def accept (c : Char) : Reader Bool := fun text =>
  if text.head? = some c then some (true, text.drop 1) else some (false, text)

def expect (c : Char) : Reader Unit := do
  if !(← accept c) then failure

/-- No control character but the tabulator. -/
def isPlain (c : Char) : Bool := c = '\t' || (32 ≤ c.toNat && c.toNat ≠ 127)

/-! ### Strings -/

/-- The character of a code point in hexadecimal. -/
def coded? (digits : List Char) : Option Char := (digitsValue? 16 digits).bind charOf?

def escaped? (c : Char) : Option Char :=
  match c with
  | '"' => some '"'
  | '\\' => some '\\'
  | 'b' => some '\x08'
  | 'f' => some '\x0c'
  | 'n' => some '\n'
  | 'r' => some '\r'
  | 't' => some '\t'
  | _ => none

abbrev Rest := List Char → Option (List Char × List Char)

/-- The rest of a string on one line, after the characters in `done`, last first. -/
def basicRest (done : List Char) : Rest
  | '"' :: rest => some (done.reverse, rest)
  | '\\' :: 'u' :: a :: b :: c :: d :: rest =>
    (coded? [a, b, c, d]).bind fun x => basicRest (x :: done) rest
  | '\\' :: 'U' :: a :: b :: c :: d :: e :: f :: g :: h :: rest =>
    (coded? [a, b, c, d, e, f, g, h]).bind fun x => basicRest (x :: done) rest
  | '\\' :: c :: rest => (escaped? c).bind fun x => basicRest (x :: done) rest
  | c :: rest => if isPlain c && c ≠ '\\' then basicRest (c :: done) rest else none
  | [] => none

def isSpace (c : Char) : Bool := c = ' ' || c = '\t'

/-- A backslash with nothing but blanks between it and the end of its line. -/
def endsLine (text : List Char) : Bool :=
  match text.dropWhile isSpace with
  | '\n' :: _ => true
  | '\r' :: '\n' :: _ => true
  | _ => false

/-- The rest of a string over several lines. A backslash at the end of a line takes
the line end and all blanks and line ends after it away (`skipping`). Up to two
quotes may stand right before the closing three. -/
def longBasicRest (skipping : Bool) (done : List Char) : Rest
  | '"' :: '"' :: '"' :: '"' :: '"' :: rest => some (('"' :: '"' :: done).reverse, rest)
  | '"' :: '"' :: '"' :: '"' :: rest => some (('"' :: done).reverse, rest)
  | '"' :: '"' :: '"' :: rest => some (done.reverse, rest)
  | '\\' :: 'u' :: a :: b :: c :: d :: rest =>
    (coded? [a, b, c, d]).bind fun x => longBasicRest false (x :: done) rest
  | '\\' :: 'U' :: a :: b :: c :: d :: e :: f :: g :: h :: rest =>
    (coded? [a, b, c, d, e, f, g, h]).bind fun x => longBasicRest false (x :: done) rest
  | '\\' :: c :: rest =>
    if endsLine (c :: rest) then longBasicRest true done (c :: rest)
    else (escaped? c).bind fun x => longBasicRest false (x :: done) rest
  | '\r' :: '\n' :: rest => longBasicRest skipping (if skipping then done else '\n' :: done) rest
  | c :: rest =>
    if skipping && (isSpace c || c = '\n') then longBasicRest true done rest
    else if c = '\n' || (isPlain c && c ≠ '\\') then longBasicRest false (c :: done) rest
    else none
  | [] => none

/-- The rest of a string without escapes on one line. -/
def literalRest (done : List Char) : Rest
  | '\'' :: rest => some (done.reverse, rest)
  | c :: rest => if isPlain c then literalRest (c :: done) rest else none
  | [] => none

/-- The rest of a string without escapes over several lines. -/
def longLiteralRest (done : List Char) : Rest
  | '\'' :: '\'' :: '\'' :: '\'' :: '\'' :: rest => some (('\'' :: '\'' :: done).reverse, rest)
  | '\'' :: '\'' :: '\'' :: '\'' :: rest => some (('\'' :: done).reverse, rest)
  | '\'' :: '\'' :: '\'' :: rest => some (done.reverse, rest)
  | '\r' :: '\n' :: rest => longLiteralRest ('\n' :: done) rest
  | c :: rest => if c = '\n' || isPlain c then longLiteralRest (c :: done) rest else none
  | [] => none

/-- A line end right after the opening quotes does not count. -/
def withoutLineEnd : List Char → List Char
  | '\n' :: rest => rest
  | '\r' :: '\n' :: rest => rest
  | rest => rest

/-- A string in quotes of any kind. -/
def quotedText : Reader (List Char) := fun
  | '"' :: '"' :: '"' :: rest => longBasicRest false [] (withoutLineEnd rest)
  | '"' :: rest => basicRest [] rest
  | '\'' :: '\'' :: '\'' :: rest => longLiteralRest [] (withoutLineEnd rest)
  | '\'' :: rest => literalRest [] rest
  | _ => none

/-! ### Numbers -/

/-- Digits after a first one, with single underscores between them. -/
def moreDigits (test : Char → Bool) (done : List Char) : Rest
  | '_' :: c :: rest => if test c then moreDigits test (c :: done) rest else none
  | c :: rest =>
    if test c then moreDigits test (c :: done) rest
    else if c = '_' then none
    else some (done.reverse, c :: rest)
  | [] => some (done.reverse, [])

def someDigits (test : Char → Bool) : Reader (List Char) := do
  let c ← next
  if !test c then failure
  moreDigits test [c]

/-- Digits of which the first is zero only when it is alone. -/
def wholeDigits : Reader (List Char) := do
  if ← accept '0' then return ['0']
  else someDigits Char.isDigit

def signedInteger? (negative : Bool) (magnitude : Nat) : Option Toml :=
  let value : Int := if negative then -(magnitude : Int) else magnitude
  if -9223372036854775808 ≤ value && value ≤ 9223372036854775807 then some (integer value)
  else none

/-- An integer without a sign in another base. -/
def based (base : Nat) : Reader Toml := do
  let digits ← someDigits fun c => (hexDigit? c).any fun d => d < base
  let magnitude ← (digitsValue? base digits : Option Nat)
  (signedInteger? false magnitude : Option Toml)

/-- A power of ten, if one is written. -/
def power : Reader (Option Int) := do
  let marked ← if ← accept 'e' then pure true else accept 'E'
  if marked then
    let (negative, rest) := signed (← ahead)
    set rest
    let magnitude := Nat.ofDigitChars 10 (← someDigits Char.isDigit) 0
    return some (if negative then -(magnitude : Int) else magnitude)
  else return none

/-- A float may be too small for the format, and below it, but not above it. -/
def floatOf? (d : Decimal) : Option Toml :=
  match Extended.ofDecimal d with
  | .infinite false => none
  | value => some (float value)

def word? (text : List Char) : Option (List Char × (Bool → Toml)) :=
  match text with
  | 'i' :: 'n' :: 'f' :: rest => some (rest, fun negative => float (.infinite negative))
  | 'n' :: 'a' :: 'n' :: rest => some (rest, fun _ => float .undefined)
  | _ => none

def signedNumber : Reader Toml := do
  let (negative, body) := signed (← ahead)
  match word? body with
  | some (rest, value) =>
    set rest
    return value negative
  | none =>
    set body
    let whole ← wholeDigits
    let fraction ← if ← accept '.' then someDigits Char.isDigit else pure []
    let power ← power
    let digits := Nat.ofDigitChars 10 (whole ++ fraction) 0
    if fraction.isEmpty && power.isNone then (signedInteger? negative digits : Option Toml)
    else (floatOf? ⟨negative, digits, power.getD 0 - fraction.length⟩ : Option Toml)

def number : Reader Toml := do
  match ← ahead with
  | '0' :: 'x' :: rest => set rest; based 16
  | '0' :: 'o' :: rest => set rest; based 8
  | '0' :: 'b' :: rest => set rest; based 2
  | _ => signedNumber

/-! ### Dates and times -/

/-- A number of so many digits between two bounds, as written and its value. -/
def ranged (digits low high : Nat) : Reader (List Char × Nat) := do
  let text := (← ahead).take digits
  let n ← (natural? text : Option Nat)
  if text.length < digits || n < low || high < n then failure
  modify (List.drop digits)
  return (text, n)

def isLeap (year : Nat) : Bool := year % 4 = 0 && (year % 100 ≠ 0 || year % 400 = 0)

def daysOf (year month : Nat) : Nat :=
  if month = 2 then (if isLeap year then 29 else 28)
  else if month = 4 || month = 6 || month = 9 || month = 11 then 30
  else 31

def day : Reader (List Char) := do
  let (yearText, year) ← ranged 4 0 9999
  expect '-'
  let (monthText, month) ← ranged 2 1 12
  expect '-'
  let (dayText, _) ← ranged 2 1 (daysOf year month)
  return yearText ++ '-' :: monthText ++ '-' :: dayText

/-- Nine digits of a fraction count, and zeros at its end do not. -/
def fractionText (digits : List Char) : List Char :=
  match ((digits.take 9).reverse.dropWhile (· = '0')).reverse with
  | [] => []
  | kept => '.' :: kept

def clock : Reader (List Char) := do
  let (hour, _) ← ranged 2 0 23
  expect ':'
  let (minute, _) ← ranged 2 0 59
  expect ':'
  let (second, _) ← ranged 2 0 60
  let fraction ←
    if ← accept '.' then do
      let digits := (← ahead).takeWhile Char.isDigit
      if digits.isEmpty then failure
      modify (List.dropWhile Char.isDigit)
      pure (fractionText digits)
    else pure []
  return hour ++ ':' :: minute ++ ':' :: second ++ fraction

/-- How far a clock is from universal time, if that is written. Nothing east and
nothing west are the same. -/
def offset : Reader (List Char) := do
  if ← accept 'Z' then return ['Z']
  else if ← accept 'z' then return ['Z']
  else
    match (← ahead).head? with
    | some sign =>
      if sign = '+' || sign = '-' then
        modify (List.drop 1)
        let (hour, hours) ← ranged 2 0 23
        expect ':'
        let (minute, minutes) ← ranged 2 0 59
        return (if hours = 0 && minutes = 0 then '+' else sign) :: hour ++ ':' :: minute
      else return []
    | none => return []

/-- Two digits of an hour and a colon. -/
def isClockStart (text : List Char) : Bool :=
  match text with
  | a :: b :: ':' :: _ => a.isDigit && b.isDigit
  | _ => false

def isDateStart (text : List Char) : Bool :=
  match text with
  | a :: b :: c :: d :: '-' :: _ => a.isDigit && b.isDigit && c.isDigit && d.isDigit
  | _ => false

/-- A day, and after it, if they are written, a clock and an offset. -/
def dated : Reader Toml := do
  let day ← day
  match ← ahead with
  | mark :: rest =>
    if (mark = 'T' || mark = 't' || mark = ' ') && isClockStart rest then
      set rest
      let clock ← clock
      let offset ← offset
      return date (String.ofList (day ++ 'T' :: clock ++ offset))
    else return date (String.ofList day)
  | [] => return date (String.ofList day)

/-- A number, a day or a clock. -/
def numberOrDate : Reader Toml := do
  let text ← ahead
  if isDateStart text then dated
  else if isClockStart text then return date (String.ofList (← clock))
  else number

end FieldRules.Toml
