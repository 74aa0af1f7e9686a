import FieldRules.Rule.Custom
import FieldRules.Rule.Declaration
import FieldRules.Rule.Registry
import FieldRules.Text.Printing

/-! Rules and declarations as they show when looked into.

A value shows as a name with its parts in parentheses or, with their names, in
braces. Validators show as a fixed mark. Strings are in quotes, and what does not
print in them is escaped by its code point. -/
namespace FieldRules.Inspection

/-! ### Parts -/

def escaped (c : Char) : List Char :=
  if c = '"' || c = '\\' then ['\\', c]
  else if c = '\t' then ['\\', 't']
  else if c = '\n' then ['\\', 'n']
  else if c = '\r' then ['\\', 'r']
  else if c = '\x00' then ['\\', '0']
  else if Text.isHidden c then "\\u\x7b".toList ++ Nat.toDigits 16 c.toNat ++ ['\x7d']
  else [c]

def quoted (s : String) : List Char := '"' :: s.toList.flatMap escaped ++ ['"']

def commas (parts : List (List Char)) : List Char := [',', ' '].intercalate parts

def list (parts : List (List Char)) : List Char := '[' :: commas parts ++ [']']

/-- A name with parts in order. -/
def call (name : String) (parts : List (List Char)) : List Char :=
  name.toList ++ '(' :: commas parts ++ [')']

/-- A name with named parts. -/
def record (name : String) (parts : List (String × List Char)) : List Char :=
  name.toList ++ " \x7b ".toList ++
    commas (parts.map fun (field, shown) => field.toList ++ ": ".toList ++ shown) ++ " \x7d".toList

def optional (shown? : Option (List Char)) : List Char :=
  match shown? with
  | some shown => call "Some" [shown]
  | none => "None".toList

/-! ### Declarations -/

def validatorMark : List Char := "<Validator>".toList

def callable : List Char := call "Callable" [validatorMark]

def head : Head → List Char
  | .name written => call "Name" [quoted written]
  | .callable _ => callable

def element : Element → List Char
  | .token text => call "Token" [quoted text]
  | .sequence h args => record "Sequence" [("head", head h), ("args", list (args.map quoted))]
  | .callable _ => callable
  | .other => "Other".toList

def declaration : Declaration → List Char
  | .empty => "Empty".toList
  | .pipe text => call "Pipe" [quoted text]
  | .list elements => call "List" [list (elements.map element)]

/-! ### Rules -/

def modifier : Modifier → List Char
  | .plain => "None".toList
  | .bailPrefix => "BailPrefix".toList

def rule (r : Rule) : List Char :=
  record "CanonicalRule" [("validator", quoted "<Validator>"), ("args", list (r.args.map quoted)),
    ("name", optional (r.name.map quoted)), ("modifier", modifier r.modifier)]

def lookup (found : Option Validator) : List Char :=
  if found.isSome then call "Found" [validatorMark] else "NotFound".toList

def source : RuleSource → List Char
  | .builtin => "Builtin".toList
  | .custom => "Custom".toList

def registered (r : RegisteredRule) : List Char :=
  record "RegisteredRule" [("name", quoted r.name), ("source", source r.source),
    ("description", quoted r.description)]

def patternRule (r : PatternRule) : List Char :=
  record "RegexValidator" [("name", quoted r.name), ("description", quoted r.description),
    ("pattern", quoted r.source)]

end FieldRules.Inspection
