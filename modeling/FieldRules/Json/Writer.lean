import FieldRules.Json.Basic

/-! The text of a JSON document.

`Json.text` is the compact form, without a blank anywhere outside strings;
`Json.pretty` puts every item on a line of its own, two blanks deeper than what
holds it. In both, a string escapes the quote, the backslash and the control
characters below the blank, and nothing else. -/
namespace FieldRules.Json

/-! ### Strings -/

def escaped (c : Char) : List Char :=
  if c = '"' then ['\\', '"']
  else if c = '\\' then ['\\', '\\']
  else if c.toNat = 8 then ['\\', 'b']
  else if c.toNat = 9 then ['\\', 't']
  else if c.toNat = 10 then ['\\', 'n']
  else if c.toNat = 12 then ['\\', 'f']
  else if c.toNat = 13 then ['\\', 'r']
  else if c.toNat < 32 then
    ['\\', 'u', '0', '0', (c.toNat / 16).digitChar, (c.toNat % 16).digitChar]
  else [c]

def quoted (s : String) : List Char := '"' :: s.toList.flatMap escaped ++ ['"']

/-! ### Compact -/

mutual

def chars : Json → List Char
  | null => ['n', 'u', 'l', 'l']
  | bool true => ['t', 'r', 'u', 'e']
  | bool false => ['f', 'a', 'l', 's', 'e']
  | number value => value.chars
  | string value => quoted value
  | array [] => ['[', ']']
  | array (first :: others) => '[' :: chars first ++ otherItems others ++ [']']
  | object [] => ['\x7b', '\x7d']
  | object ((key, first) :: others) =>
    '\x7b' :: quoted key ++ ':' :: chars first ++ otherEntries others ++ ['\x7d']

def otherItems : List Json → List Char
  | [] => []
  | item :: others => ',' :: chars item ++ otherItems others

def otherEntries : List (String × Json) → List Char
  | [] => []
  | (key, value) :: others => ',' :: quoted key ++ ':' :: chars value ++ otherEntries others

end

def text (v : Json) : String := String.ofList v.chars

/-! ### One item a line -/

/-- A line end and the indentation of the next line. -/
def newLine (depth : Nat) : List Char := '\n' :: List.replicate (2 * depth) ' '

mutual

def prettyChars (depth : Nat) : Json → List Char
  | null => ['n', 'u', 'l', 'l']
  | bool true => ['t', 'r', 'u', 'e']
  | bool false => ['f', 'a', 'l', 's', 'e']
  | number value => value.chars
  | string value => quoted value
  | array [] => ['[', ']']
  | array (first :: others) =>
    '[' :: newLine (depth + 1) ++ prettyChars (depth + 1) first ++
      prettyItems (depth + 1) others ++ newLine depth ++ [']']
  | object [] => ['\x7b', '\x7d']
  | object ((key, first) :: others) =>
    '\x7b' :: newLine (depth + 1) ++ quoted key ++ ':' :: ' ' :: prettyChars (depth + 1) first ++
      prettyEntries (depth + 1) others ++ newLine depth ++ ['\x7d']

def prettyItems (depth : Nat) : List Json → List Char
  | [] => []
  | item :: others => ',' :: newLine depth ++ prettyChars depth item ++ prettyItems depth others

def prettyEntries (depth : Nat) : List (String × Json) → List Char
  | [] => []
  | (key, value) :: others =>
    ',' :: newLine depth ++ quoted key ++ ':' :: ' ' :: prettyChars depth value ++
      prettyEntries depth others

end

def pretty (v : Json) : String := String.ofList (v.prettyChars 0)

end FieldRules.Json
