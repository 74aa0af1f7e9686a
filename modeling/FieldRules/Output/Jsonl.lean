import FieldRules.Json.Writer
import FieldRules.Plan
import FieldRules.Rule.Registry

/-! Plans and rules as records, one JSON object a line.

All groups come first, field by field, then all errors, then one status. -/
namespace FieldRules.Jsonl

def ruleRecord (r : Rule) : Json := .object [
  ("name", match r.name with
    | some name => .string name
    | none => .null),
  ("args", .array (r.args.map .string)),
  ("modifier", .string r.modifier.text)]

def groupRecord (field : String) (index : Nat) (g : Group) : Json := .object [
  ("type", .string "group"), ("field", .string field), ("index", .ofNat index),
  ("bail", .bool g.bail), ("rules", .array (g.rules.map ruleRecord))]

def errorRecord (e : FieldError) : Json := .object [
  ("type", .string "error"), ("field", .string e.field), ("message", .string e.error.message)]

def statusRecord (c : Compilation) : Json := .object [
  ("type", .string "status"), ("passed", .bool c.succeeded),
  ("fields_compiled", .ofNat c.plans.length), ("fields_failed", .ofNat c.errors.length)]

def planRecords (p : FieldPlan) : List Json :=
  p.groups.zipIdx.map fun (g, index) => groupRecord p.field index g

def records (c : Compilation) : List Json :=
  c.plans.flatMap planRecords ++ c.errors.map errorRecord ++ [statusRecord c]

def registryRecord (r : RegisteredRule) : Json := .object [
  ("type", .string "rule"), ("name", .string r.name), ("source", .string r.source.text),
  ("description", .string r.description)]

/-- Each record on a line of its own. -/
def lines (records : List Json) : String :=
  String.ofList (records.flatMap fun record => record.chars ++ ['\n'])

def plans (c : Compilation) : String := lines (records c)

def rules (r : Registry) : String := lines (r.entries.map registryRecord)

end FieldRules.Jsonl
