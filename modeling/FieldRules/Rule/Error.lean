/-! What can be wrong with a rule, and how it is said. -/
namespace FieldRules

inductive RuleError where
  /-- A name that is not registered, as it was written. -/
  | unknownRule (written : String)
  | invalidDefinition (detail : String)
  | invalidPattern (detail : String)
deriving DecidableEq, Repr

namespace RuleError

def emptyName : RuleError := .invalidDefinition "Custom rule name must not be empty"

def duplicateName (name : String) : RuleError :=
  .invalidDefinition ("Duplicate rule name '" ++ name ++ "' in [rules.custom]")

def badPattern (name pattern : String) : RuleError :=
  .invalidPattern
    ("Failed to compile pattern '" ++ pattern ++ "' for rule '" ++ name ++ "': <regex error>")

def message : RuleError → String
  | unknownRule written => "Unknown rule: " ++ written
  | invalidDefinition detail => "Invalid rule definition: " ++ detail
  | invalidPattern detail => "Invalid regex pattern: " ++ detail

end RuleError
end FieldRules
