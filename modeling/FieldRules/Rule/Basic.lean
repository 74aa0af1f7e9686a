import FieldRules.Json.Basic
import FieldRules.Rule.Name

/-! What a rule is, and what a group of rules is.

A validator judges a value under the arguments that a rule gives it. Two
validators may judge alike and still be two, so each carries a handle, and two
rules are the same when their handles, arguments, names and modifiers are.

A group is a batch of rules that run together. When it is a halting group, its
failure ends the whole chain. -/
namespace FieldRules

/-- Where a validator comes from, which tells it from every other one. -/
inductive Handle where
  | builtin (name : String)
  | configured (name pattern : String)
  | supplied (label : String)
deriving DecidableEq, Repr

structure Validator where
  handle : Handle
  accepts : Json → List String → Bool

structure Rule where
  validator : Validator
  args : List String
  /-- None when the validator was given directly. -/
  name : Option String
  modifier : Modifier

structure Group where
  rules : List Rule
  bail : Bool

namespace Rule

/-- A rule on a validator that was given directly. -/
def direct (validator : Validator) (args : List String) : Rule := ⟨validator, args, none, .plain⟩

def displayName (r : Rule) : String := r.name.getD "<callable>"

/-- The rule is the word that makes every later rule a halting one. Its case does
not count. -/
def isBailKeyword (r : Rule) : Bool :=
  r.name.any fun name => name.toList.map Char.toLower == ['b', 'a', 'i', 'l']

def check (r : Rule) (v : Json) : Bool := r.validator.accepts v r.args

def same (a b : Rule) : Bool :=
  a.validator.handle = b.validator.handle && a.args = b.args && a.name = b.name &&
    a.modifier = b.modifier

end Rule

namespace Group

def names (g : Group) : List String := g.rules.map Rule.displayName

def same (a b : Group) : Bool :=
  a.bail = b.bail && a.rules.length = b.rules.length &&
    (a.rules.zip b.rules).all fun (r, s) => r.same s

/-- Group by group the same. -/
def sameAll (a b : List Group) : Bool :=
  a.length = b.length && (a.zip b).all fun (g, h) => g.same h

end Group
end FieldRules
