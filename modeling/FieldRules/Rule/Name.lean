import FieldRules.Text.Letter

/-! The names of rules.

A rule may be written in snake case and with the mark `^` in front. The mark is
taken off, once, and says that the rule halts the chain when it fails; what is
left becomes camel case, which is the form rules are registered under. -/
namespace FieldRules

inductive Modifier where
  | plain
  | bailPrefix
deriving DecidableEq, Repr

namespace Modifier

def isBail : Modifier → Bool
  | plain => false
  | bailPrefix => true

def text : Modifier → String
  | plain => "none"
  | bailPrefix => "bail_prefix"

end Modifier

namespace RuleName

/-- An underscore goes when it stands between a character other than an
underscore and a letter or digit, and that letter or digit becomes upper case.
What stands before is `previous`, as it was written. -/
def camelizeAfter (previous : Option Char) : List Char → List Char
  | '_' :: next :: rest =>
    if previous.isSome && previous ≠ some '_' && Text.alphanumeric next then
      Text.uppercase next ++ camelizeAfter (some next) rest
    else '_' :: camelizeAfter (some '_') (next :: rest)
  | c :: rest => c :: camelizeAfter (some c) rest
  | [] => []

def camelize (name : String) : String := String.ofList (camelizeAfter none name.toList)

/-- The registered form of a name as written, and its modifier. -/
def resolve (raw : String) : String × Modifier :=
  match raw.toList with
  | '^' :: rest => (camelize (String.ofList rest), .bailPrefix)
  | _ => (camelize raw, .plain)

end RuleName
end FieldRules
