/-! Text with styles, and the escape sequences that show them.

Output is a list of spans: text, a switch to a style, a switch back to none. On a
plain medium the switches leave no trace. On a terminal a switch to a style first
drops whatever is in force; `shown` follows the switches in such a text and tells
every visible character with the style it has. -/
namespace FieldRules

inductive Color where
  | red
  | green
  | yellow
deriving DecidableEq, Repr

structure Style where
  bold : Bool
  color : Option Color
deriving DecidableEq, Repr

inductive Span where
  | text (chars : List Char)
  | style (s : Style)
  | reset
deriving DecidableEq, Repr

namespace Color

/-- The digit of the color in an escape sequence. -/
def digit : Color → Char
  | red => '1'
  | green => '2'
  | yellow => '3'

def ofDigit? (c : Char) : Option Color :=
  if c = '1' then some red else if c = '2' then some green else if c = '3' then some yellow
  else none

end Color

namespace Style

def none : Style := ⟨false, Option.none⟩

def boldface : Style := ⟨true, Option.none⟩

def colored (c : Color) : Style := ⟨false, some c⟩

/-- The sequence that drops every attribute. -/
def dropAll : List Char := ['\x1b', '[', '0', 'm']

def escapes (s : Style) : List Char :=
  dropAll ++ (if s.bold then ['\x1b', '[', '1', 'm'] else []) ++
    match s.color with
    | some c => ['\x1b', '[', '3', c.digit, 'm']
    | Option.none => []

/-- The style after an escape sequence, from what stands in it. -/
def after (s : Style) (parameters : List Char) : Style :=
  match parameters with
  | ['0'] => Style.none
  | ['1'] => {s with bold := true}
  | ['3', c] => {s with color := Color.ofDigit? c}
  | _ => s

end Style

namespace Span

def plainChars : Span → List Char
  | text chars => chars
  | _ => []

def terminalChars : Span → List Char
  | text chars => chars
  | style s => s.escapes
  | reset => Style.dropAll

def plain (spans : List Span) : String := String.ofList (spans.flatMap plainChars)

def terminal (spans : List Span) : String := String.ofList (spans.flatMap terminalChars)

def line (chars : List Char) : Span := text (chars ++ ['\n'])

end Span

/-! ### Reading back -/

/-- The visible characters with their styles, and the style at the end. The text of
an escape sequence that is being read is collected in `parameters`. -/
def shown (s : Style) (parameters : Option (List Char)) :
    List Char → List (Char × Style) × Style
  | [] => ([], s)
  | c :: rest =>
    match parameters with
    | some read =>
      if c = 'm' then shown (s.after read) none rest
      else if c = '[' && read.isEmpty then shown s (some []) rest
      else shown s (some (read ++ [c])) rest
    | none =>
      if c = '\x1b' then shown s (some []) rest
      else
        let (later, last) := shown s none rest
        ((c, s) :: later, last)

/-- The text without its escape sequences, each an escape character, a bracket and
all up to the next `m`. The text may begin inside of one. -/
def stripped (inside : Bool) : List Char → List Char
  | [] => []
  | c :: rest =>
    if inside then stripped (c != 'm') rest
    else if c = '\x1b' && rest.head? = some '[' && rest.contains 'm' then stripped true rest
    else c :: stripped false rest

end FieldRules
