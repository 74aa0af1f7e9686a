import FieldRules.Error
import FieldRules.Output.Report
import FieldRules.Path.Basic
import FieldRules.Rule.Declaration
import FieldRules.Rule.Registry
import FieldRules.Toml.Reader

/-! The configuration: which rules there are, which fields, and how to report.

A configuration is read in two steps. The first wants the right shape: sections
are tables, and where a section has a fixed list of settings it may also be the
array of their values in order. Settings that are not known do not count. The
second looks at what the settings say: the version, the names and patterns of
custom rules, the paths of fields. -/
namespace FieldRules

structure Config where
  version : String
  toggles : Dict Bool
  custom : Dict CustomRule
  fields : Dict Declaration
  report : Report

namespace Config

/-! ### Shape -/

abbrev Entries := List (String × Toml)

/-- The settings of a section in the order of their names, each if it is there. -/
def settings? (names : List String) : Toml → Option (List (Option Toml))
  | .array items => some (names.zipIdx.map fun (_, i) => items[i]?)
  | v => v.entries?.map fun entries => names.map (Dict.get? entries)

def text? : Option Toml → Option String
  | some (.string s) => some s
  | _ => none

def optionalText? : Option Toml → Option (Option String)
  | none => some none
  | some (.string s) => some (some s)
  | some _ => none

def isVoid : Toml → Bool
  | .array items => items.isEmpty
  | .table entries => entries.isEmpty
  | _ => false

/-- The word that a value stands for: a string, or the only key of a table whose
value is empty. -/
def word? : Toml → Option String
  | .string s => some s
  | .table [(key, v)] => if isVoid v then some key else none
  | _ => none

def format? : Option Toml → Option Format
  | none => some .human
  | some v =>
    match word? v with
    | some "human" => some .human
    | some "jsonl" => some .jsonl
    | _ => none

def coloring? : Option Toml → Option Coloring
  | none => some .auto
  | some v =>
    match word? v with
    | some "auto" => some .auto
    | some "always" => some .always
    | some "never" => some .never
    | _ => none

def report? : Option Toml → Option Report
  | none => some .standard
  | some v => do
    match ← settings? ["format", "color"] v with
    | [format, color] => return ⟨← format? format, ← coloring? color⟩
    | _ => none

def customRule? (v : Toml) : Option CustomRule := do
  match ← settings? ["pattern", "description"] v with
  | [pattern, description] => return ⟨← text? pattern, ← optionalText? description⟩
  | _ => none

def version? (v : Toml) : Option String := do
  match ← settings? ["version"] v with
  | [version] => text? version
  | _ => none

/-- The entries of a section that may be missing, each read. -/
def section? {α : Type} (read : Toml → Option α) : Option Toml → Option (Dict α)
  | none => some []
  | some v => do
    let entries ← (← v.entries?).mapM fun (name, v) => (read v).map (name, ·)
    return Dict.ofList entries

def toggle? : Toml → Option Bool
  | .bool enabled => some enabled
  | _ => none

/-- The rules section: what it defines stands beside what it switches on and off. -/
def rules? : Option Toml → Option (Dict Bool × Dict CustomRule)
  | none => some ([], [])
  | some v => do
    let entries ← v.entries?
    let others := entries.filter fun entry => entry.1 ≠ "custom"
    let toggles ← section? toggle? (some (.table others))
    let custom ← section? customRule? (Dict.get? entries "custom")
    return (toggles, custom)

def ofToml? (v : Toml) : Option Config := do
  let entries ← v.entries?
  let version ← version? (← Dict.get? entries "ruleplan")
  let (toggles, custom) ← rules? (Dict.get? entries "rules")
  let fields ← section? (fun v => some (Declaration.ofJson v.json)) (Dict.get? entries "fields")
  let report ← report? (Dict.get? entries "output")
  return ⟨version, toggles, custom, fields, report⟩

/-! ### Meaning -/

def customRuleError? (entry : String × CustomRule) : Option ConfigError :=
  if entry.1.isEmpty then some .emptyRuleName
  else if (Pattern.ofText? entry.2.pattern).isNone then
    some (.badPattern entry.1 entry.2.pattern)
  else none

def fieldError? (entry : String × Declaration) : Option ConfigError :=
  if (Path.ofText entry.1).wellFormed then none else some (.badField entry.1)

/-- What is wrong with a configuration: the version, else the first of the custom
rules that has something, else the first of the fields. -/
def error? (c : Config) : Option ConfigError :=
  if c.version ≠ "1" then some (.unsupportedVersion c.version)
  else
    match c.custom.findSome? customRuleError? with
    | some e => some e
    | none => c.fields.findSome? fieldError?

def ofText (text : String) : Except ConfigError Config :=
  match (Toml.ofText? text).bind ofToml? with
  | none => .error .malformed
  | some c =>
    match c.error? with
    | some e => .error e
    | none => .ok c

/-- A configuration to start from. -/
def starter : String := String.join <| List.map (· ++ "\n") [
  "# ruleplan configuration",
  "[ruleplan]",
  "version = \"1\"",
  "",
  "# Disable builtin rules by setting them to false.",
  "[rules]",
  "# email = false",
  "",
  "# Custom rules match a field's value against a regular expression.",
  "# [rules.custom.postal_code]",
  "# pattern = \"^[0-9]\x7b5\x7d$\"",
  "# description = \"Five digit postal code\"",
  "",
  "# Field declarations: a pipe string or a list of tokens and [name, args...] lists.",
  "# `bail` makes every later rule halt on failure; `^` makes a single rule halt.",
  "[fields]",
  "email = \"bail|required|email\"",
  "# \"profile.age\" = [\"^required\", [\"between\", 18, 99]]",
  "",
  "[output]",
  "format = \"human\"",
  "color = \"auto\""]

def registry (c : Config) : Except RuleError Registry := Registry.configured c.toggles c.custom

end Config
end FieldRules
