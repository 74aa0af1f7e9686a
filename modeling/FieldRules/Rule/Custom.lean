import FieldRules.Rule.Builtin
import FieldRules.Rule.Error

/-! Rules that a configuration defines by a pattern. -/
namespace FieldRules

structure CustomRule where
  pattern : String
  description : Option String
deriving DecidableEq, Repr

/-- A custom rule under its registered name, its pattern read. -/
structure PatternRule where
  name : String
  description : String
  source : String
  pattern : Pattern

namespace PatternRule

/-- The name is looked at before the pattern. -/
def ofDefinition (name : String) (definition : CustomRule) : Except RuleError PatternRule :=
  if name.isEmpty then .error .emptyName
  else
    match Pattern.ofText? definition.pattern with
    | none => .error (.badPattern name definition.pattern)
    | some pattern =>
      .ok ⟨name,
        definition.description.getD ("Value matches /" ++ definition.pattern ++ "/"),
        definition.pattern, pattern⟩

def accepts (r : PatternRule) (v : Json) : Bool := Builtin.hasMatch r.pattern v

def validator (r : PatternRule) : Validator :=
  ⟨.configured r.name r.source, fun v _ => r.accepts v⟩

end PatternRule
end FieldRules
