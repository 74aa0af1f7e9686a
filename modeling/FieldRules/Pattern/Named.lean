import FieldRules.Text.Age
import FieldRules.Text.Break
import FieldRules.Text.Script

/-! The sets of characters that have names in patterns.

These are the words, digits and blanks of the class letters, the ASCII classes
between colons, and the properties of the character standard: alone by name, or
as a property and its value. -/
namespace FieldRules.Pattern.Named
open Text

/-! ### Words, digits and blanks -/

/-- Zero width, between letters that are joined. -/
def joinControls : CharSet := .range '\u200c' '\u200d'

def word : CharSet :=
  .unions [Property.alphabetic.set, Category.setOf ["M", "Nd", "Pc"], joinControls]

def decimalDigit : CharSet := Category.setOf ["Nd"]

def blank : CharSet :=
  ⟨[⟨9, 13⟩, ⟨0x20, 0x20⟩, ⟨0x85, 0x85⟩, ⟨0xA0, 0xA0⟩, ⟨0x1680, 0x1680⟩, ⟨0x2000, 0x200A⟩,
    ⟨0x2028, 0x2029⟩, ⟨0x202F, 0x202F⟩, ⟨0x205F, 0x205F⟩, ⟨0x3000, 0x3000⟩]⟩

def ascii : CharSet := .range '\x00' '\x7f'

def asciiDigit : CharSet := .range '0' '9'

def asciiLetter : CharSet := .unions [.range 'A' 'Z', .range 'a' 'z']

def asciiWord : CharSet := .unions [asciiDigit, asciiLetter, .single '_']

def asciiSpace : CharSet := .unions [.range '\t' '\r', .single ' ']

/-! ### ASCII classes -/

/-- The set of a class that is written between colons. -/
def asciiClass? (name : String) : Option CharSet :=
  match name with
  | "alnum" => some (asciiDigit.union asciiLetter)
  | "alpha" => some asciiLetter
  | "ascii" => some ascii
  | "blank" => some (.unions [.single '\t', .single ' '])
  | "cntrl" => some (.unions [.range '\x00' '\x1f', .single '\x7f'])
  | "digit" => some asciiDigit
  | "graph" => some (.range '!' '~')
  | "lower" => some (.range 'a' 'z')
  | "print" => some (.range ' ' '~')
  | "punct" => some (.unions [.range '!' '/', .range ':' '@', .range '[' '\x60', .range '\x7b' '~'])
  | "space" => some asciiSpace
  | "upper" => some (.range 'A' 'Z')
  | "word" => some asciiWord
  | "xdigit" => some (.unions [asciiDigit, .range 'A' 'F', .range 'a' 'f'])
  | _ => none

/-! ### Properties -/

/-- A name as it is compared: lower case, ASCII only, without separators and
without `is` in front. -/
def comparable (name : List Char) : String :=
  let (hasIs, name) := match name with
    | first :: second :: rest =>
      if first.toLower = 'i' && second.toLower = 's' then (true, rest) else (false, name)
    | _ => (false, name)
  let kept := (name.filter fun c => c.toNat < 128 && !([' ', '_', '-'].contains c)).map Char.toLower
  if hasIs && kept = ['c'] then "isc" else String.ofList kept

/-- The general categories and their groups, by code and by names. -/
def categoryNames : List (String × List String) := [
  ("L", ["l", "letter"]), ("Lu", ["lu", "uppercaseletter"]), ("Ll", ["ll", "lowercaseletter"]),
  ("Lt", ["lt", "titlecaseletter"]), ("Lm", ["lm", "modifierletter"]),
  ("Lo", ["lo", "otherletter"]), ("M", ["m", "mark", "combiningmark"]),
  ("Mn", ["mn", "nonspacingmark"]), ("Mc", ["mc", "spacingmark"]), ("Me", ["me", "enclosingmark"]),
  ("N", ["n", "number"]), ("Nd", ["nd", "decimalnumber", "digit"]), ("Nl", ["nl", "letternumber"]),
  ("No", ["no", "othernumber"]), ("P", ["p", "punctuation", "punct"]),
  ("Pc", ["pc", "connectorpunctuation"]), ("Pd", ["pd", "dashpunctuation"]),
  ("Ps", ["ps", "openpunctuation"]), ("Pe", ["pe", "closepunctuation"]),
  ("Pi", ["pi", "initialpunctuation"]), ("Pf", ["pf", "finalpunctuation"]),
  ("Po", ["po", "otherpunctuation"]), ("S", ["s", "symbol"]), ("Sm", ["sm", "mathsymbol"]),
  ("Sc", ["sc", "currencysymbol"]), ("Sk", ["sk", "modifiersymbol"]), ("So", ["so", "othersymbol"]),
  ("Z", ["z", "separator"]), ("Zs", ["zs", "spaceseparator"]), ("Zl", ["zl", "lineseparator"]),
  ("Zp", ["zp", "paragraphseparator"]), ("C", ["c", "other"]), ("Cc", ["cc", "control", "cntrl"]),
  ("Cf", ["cf", "format"]), ("Co", ["co", "privateuse"]), ("Cn", ["cn", "unassigned"])]

def category? (name : String) : Option CharSet :=
  if name = "any" then some .any
  else if name = "ascii" then some ascii
  else if name = "assigned" then some (Category.setOf ["Cn"]).compl
  else if name = "lc" || name = "casedletter" then some (Category.setOf ["Lu", "Ll", "Lt"])
  else
    (categoryNames.find? fun entry => entry.2.contains name).map fun entry =>
      Category.setOf [entry.1]

/-- The code of a script, by that code or one of its names. -/
def scriptCode? (name : String) : Option (List Char) :=
  (Script.nameList.find? fun entry => entry.any fun word => comparable word = name).bind List.head?

def script? (name : String) : Option CharSet := (scriptCode? name).map Script.set

def sharedScript? (name : String) : Option CharSet := (scriptCode? name).map Script.servantsOf

/-- The set that a name alone stands for. -/
def ofName? (name : List Char) : Option CharSet :=
  let name := comparable name
  ((Property.find? Property.all name).orElse fun _ => category? name).orElse fun _ => script? name

/-- The set of a property and one of its values. -/
def ofValue? (property value : List Char) : Option CharSet :=
  let value := comparable value
  match comparable property with
  | "gc" => category? value
  | "generalcategory" => category? value
  | "sc" => script? value
  | "script" => script? value
  | "scx" => sharedScript? value
  | "scriptextensions" => sharedScript? value
  | "age" => Age.upTo? value
  | "gcb" => Property.find? Break.grapheme value
  | "graphemeclusterbreak" => Property.find? Break.grapheme value
  | "wb" => Property.find? Break.word value
  | "wordbreak" => Property.find? Break.word value
  | "sb" => Property.find? Break.sentence value
  | "sentencebreak" => Property.find? Break.sentence value
  | _ => none

end FieldRules.Pattern.Named
