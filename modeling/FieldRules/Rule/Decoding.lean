import FieldRules.Rule.Custom
import FieldRules.Rule.Registry

/-! Modifiers, sources and definitions of rules as JSON.

A word that is one of a few may be written as a string, or as an object whose only
entry has the word for its key and null for its value. A definition may be an
object or the list of its fields in order. -/
namespace FieldRules

/-- The word that a value stands for. -/
def Json.word? : Json → Option String
  | .string s => some s
  | .object [(key, .null)] => some key
  | _ => none

def Modifier.ofJson? (v : Json) : Option Modifier :=
  match v.word? with
  | some "none" => some .plain
  | some "bail_prefix" => some .bailPrefix
  | _ => none

def RuleSource.ofJson? (v : Json) : Option RuleSource :=
  match v.word? with
  | some "builtin" => some .builtin
  | some "custom" => some .custom
  | _ => none

namespace CustomRule

/-- A string, or null for none; nothing at all is none too. -/
def description? : Option Json → Option (Option String)
  | none => some none
  | some .null => some none
  | some (.string s) => some (some s)
  | _ => none

def ofJson? : Json → Option CustomRule
  | .object entries =>
    match Dict.get? entries "pattern" with
    | some (.string pattern) => (description? (Dict.get? entries "description")).map (⟨pattern, ·⟩)
    | _ => none
  | .array [.string pattern] => some ⟨pattern, none⟩
  | .array [.string pattern, description] => (description? (some description)).map (⟨pattern, ·⟩)
  | _ => none

def json (d : CustomRule) : Json :=
  .object (("pattern", .string d.pattern) ::
    match d.description with
    | some description => [("description", .string description)]
    | none => [])

end CustomRule
end FieldRules
