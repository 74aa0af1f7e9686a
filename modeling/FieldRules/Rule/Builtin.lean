import FieldRules.Decimal.Extended
import FieldRules.Json.Writer
import FieldRules.Pattern.Reader
import FieldRules.Rule.Basic
import FieldRules.Text.Blank

/-! The rules that every registry starts with.

Rules that measure compare the value of a number, the number of characters of a
string or the number of items of an array with their arguments. Rules that
compare text look at the text of a scalar (`scalarText?`): a string itself, a
number or a truth value as it is written. -/
namespace FieldRules.Builtin

/-! ### What rules look at -/

def ofCount (n : Nat) : Extended := Extended.ofDecimal (.ofInt n)

/-- Number, length or size. -/
def magnitude? : Json → Option Extended
  | .number n => some (.finite n.toDouble)
  | .string s => some (ofCount s.toList.length)
  | .array items => some (ofCount items.length)
  | _ => none

def bound? (args : List String) (position : Nat) : Option Extended :=
  args[position]?.bind fun arg => Extended.ofChars? (Text.trim arg.toList)

def scalarText? : Json → Option String
  | .string s => some s
  | .number n => some (String.ofList n.chars)
  | .bool true => some "true"
  | .bool false => some "false"
  | _ => none

/-- An integer text whose value fits a signed integer of 64 bits. -/
def isIntegerText (text : List Char) : Bool :=
  (integer? text).any fun n => -9223372036854775808 ≤ n && n ≤ 9223372036854775807

/-! ### The rules -/

def required : Json → Bool
  | .null => false
  | .string s => !(Text.trim s.toList).isEmpty
  | .array items => !items.isEmpty
  | .object entries => !entries.isEmpty
  | _ => true

def min (v : Json) (args : List String) : Bool :=
  match magnitude? v, bound? args 0 with
  | some size, some bound => bound.le size
  | _, _ => false

def max (v : Json) (args : List String) : Bool :=
  match magnitude? v, bound? args 0 with
  | some size, some bound => size.le bound
  | _, _ => false

def between (v : Json) (args : List String) : Bool :=
  match magnitude? v, bound? args 0, bound? args 1 with
  | some size, some low, some high => low.le size && size.le high
  | _, _, _ => false

def isIn (v : Json) (args : List String) : Bool := (scalarText? v).any args.contains

def notIn (v : Json) (args : List String) : Bool := !(scalarText? v).any args.contains

def numeric : Json → Bool
  | .number _ => true
  | .string s => (Extended.ofChars? (Text.trim s.toList)).any Extended.isFinite
  | _ => false

def integer : Json → Bool
  | .number (.integer _ _) => true
  | .string s => isIntegerText (Text.trim s.toList)
  | _ => false

/-- A nonempty string of nothing but such characters. -/
def isAll (test : Char → Bool) : Json → Bool
  | .string s => !s.isEmpty && s.toList.all test
  | _ => false

/-- Three parts that are not empty and have no blank and no `@` in them: an `@` parts the
first two, a point the last two. -/
def address? : Option Pattern := Pattern.ofText? "^[^\\s@]+@[^\\s@]+\\.[^\\s@]+$"

def email : Json → Bool
  | .string s => address?.any (·.matchesText s)
  | _ => false

/-- The text of a scalar has a match. -/
def hasMatch (p : Pattern) (v : Json) : Bool := (scalarText? v).any p.matchesText

/-- The arguments are one pattern, cut where it has commas. -/
def regex (v : Json) (args : List String) : Bool :=
  !args.isEmpty && (Pattern.ofText? (",".intercalate args)).any (hasMatch · v)

end Builtin

structure Builtin where
  name : String
  description : String
  accepts : Json → List String → Bool

namespace Builtin

def validator (b : Builtin) : Validator := ⟨.builtin b.name, b.accepts⟩

def all : List Builtin := [
  ⟨"bail", "Control token: later rules halt the chain on failure", fun _ _ => true⟩,
  ⟨"required", "Value is present and not empty", fun v _ => required v⟩,
  ⟨"min", "Number, length or size is at least the argument", min⟩,
  ⟨"max", "Number, length or size is at most the argument", max⟩,
  ⟨"between", "Number, length or size lies within two arguments", between⟩,
  ⟨"in", "Value is one of the arguments", isIn⟩,
  ⟨"notIn", "Value is none of the arguments", notIn⟩,
  ⟨"numeric", "Value is a number or numeric string", fun v _ => numeric v⟩,
  ⟨"integer", "Value is an integer or integer string", fun v _ => integer v⟩,
  ⟨"alpha", "Value contains only letters", fun v _ => isAll Text.alphabetic v⟩,
  ⟨"alphaNum", "Value contains only letters and digits", fun v _ => isAll Text.alphanumeric v⟩,
  ⟨"email", "Value looks like an email address", fun v _ => email v⟩,
  ⟨"regex", "Value matches the pattern argument", regex⟩]

end Builtin
end FieldRules
