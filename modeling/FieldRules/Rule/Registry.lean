import FieldRules.Dict
import FieldRules.Rule.Custom
import FieldRules.Rule.Name

/-! Which rules there are, by name.

A registry is a dictionary of entries, each under its own name, so it lists them
by ascending name. Names of custom rules and of rules to disable are made camel
case first; a rule that is registered directly keeps its name as given. -/
namespace FieldRules

inductive RuleSource where
  | builtin
  | custom
deriving DecidableEq, Repr

def RuleSource.text : RuleSource → String
  | builtin => "builtin"
  | custom => "custom"

structure RegisteredRule where
  name : String
  validator : Validator
  source : RuleSource
  description : String

structure Registry where
  rules : Dict RegisteredRule

namespace Registry

def empty : Registry := ⟨[]⟩

/-- An entry under its name, in the place of any other one of that name. -/
def register (r : Registry) (rule : RegisteredRule) : Registry :=
  ⟨Dict.put r.rules rule.name rule⟩

def builtins : Registry :=
  Builtin.all.foldl (fun r b => r.register ⟨b.name, b.validator, .builtin, b.description⟩) empty

def get? (r : Registry) (name : String) : Option RegisteredRule := Dict.get? r.rules name

def contains (r : Registry) (name : String) : Bool := Dict.contains r.rules name

def lookup (r : Registry) (name : String) : Option Validator :=
  (r.get? name).map RegisteredRule.validator

def remove (r : Registry) (name : String) : Registry := ⟨Dict.erase r.rules name⟩

def names (r : Registry) : List String := Dict.keys r.rules

def entries (r : Registry) : List RegisteredRule := r.rules.map Prod.snd

def size (r : Registry) : Nat := r.rules.length

def isEmpty (r : Registry) : Bool := r.rules.isEmpty

/-! ### Configuration -/

/-- Without the rules whose names are switched off. A name that no rule has changes
nothing. -/
def disable (r : Registry) (toggles : Dict Bool) : Registry :=
  toggles.foldl (fun r (name, enabled) => if enabled then r else r.remove (RuleName.camelize name)) r

/-- With one custom rule, whose name must be new. -/
def define (r : Registry) (written : String) (definition : CustomRule) :
    Except RuleError Registry :=
  match PatternRule.ofDefinition (RuleName.camelize written) definition with
  | .error problem => .error problem
  | .ok rule =>
    if r.contains rule.name then .error (.duplicateName rule.name)
    else .ok (r.register ⟨rule.name, rule.validator, .custom, rule.description⟩)

/-- With custom rules one after the other, up to the first that cannot be defined. -/
def load (r : Registry) : Dict CustomRule → Registry × Option RuleError
  | [] => (r, none)
  | (written, definition) :: rest =>
    match r.define written definition with
    | .error problem => (r, some problem)
    | .ok r => r.load rest

/-- The built-in rules less the disabled ones, and all the custom rules. -/
def configured (toggles : Dict Bool) (custom : Dict CustomRule) : Except RuleError Registry :=
  match (builtins.disable toggles).load custom with
  | (r, none) => .ok r
  | (_, some problem) => .error problem

end Registry
end FieldRules
