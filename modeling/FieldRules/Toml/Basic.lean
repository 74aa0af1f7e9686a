import FieldRules.Decimal.Extended
import FieldRules.Json.Basic

/-! Configuration documents.

A document is a table of values by name. A date or time is kept as its text. Where
a JSON document is wanted instead (`Toml.json`), a number that is not finite is
null, and a date is an object whose only entry holds the text. -/
namespace FieldRules

inductive Toml where
  | string (value : String)
  | integer (value : Int)
  | float (value : Extended)
  | bool (value : Bool)
  | date (text : String)
  | array (items : List Toml)
  | table (entries : List (String × Toml))
deriving Inhabited

namespace Toml

/-- The name under which a date stands when it is taken for a table. -/
def dateKey : String := "$__toml_private_datetime"

mutual

def json : Toml → Json
  | string value => .string value
  | integer value => if fits : Fits64 value then .number (.integer value fits) else .null
  | float (.finite value) => .number (.float value)
  | float _ => .null
  | bool value => .bool value
  | date text => .object [(dateKey, .string text)]
  | array items => .array (jsonItems items)
  | table entries => .object (Dict.ofList (jsonEntries entries))

def jsonItems : List Toml → List Json
  | [] => []
  | item :: rest => item.json :: jsonItems rest

def jsonEntries : List (String × Toml) → List (String × Json)
  | [] => []
  | (key, value) :: rest => (key, value.json) :: jsonEntries rest

end

/-- The entries of a table; a date is a table of its text. -/
def entries? : Toml → Option (List (String × Toml))
  | table entries => some entries
  | date text => some [(dateKey, string text)]
  | _ => none

end Toml
end FieldRules
