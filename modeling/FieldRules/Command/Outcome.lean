import FieldRules.Command.Arguments
import FieldRules.Error

/-! How a run of the program ends. -/
namespace FieldRules

/-- A failure is an answer that is not the one hoped for: no value is there, or a
field does not compile. An error is no answer. -/
inductive Status where
  | success
  | failure
  | error
  | malformed
deriving DecidableEq, Repr

def Status.code : Status → Nat
  | success => 0
  | failure => 1
  | error => 2
  | malformed => 3

structure Outcome where
  status : Status
  output : String
  complaint : String
deriving DecidableEq, Repr

/-- Why a command does not do what it is for. -/
inductive Refusal where
  | problem (p : Problem)
  | document (e : DocumentError)
  | unknownField (field : String)
  | folder (file : String)
deriving DecidableEq, Repr

def Refusal.message : Refusal → String
  | problem p => p.message
  | document e => e.message
  | unknownField field => "Field '" ++ field ++ "' is not declared in [fields]"
  | folder file => "Path error: Path '" ++ file ++ "' is a directory"

/-- A configuration that can be read and is not one has a status of its own. -/
def Refusal.status : Refusal → Status
  | problem (.config .malformed) => .malformed
  | problem (.config (.invalid _)) => .malformed
  | _ => .error

namespace Outcome

def answer (output : String) : Outcome := ⟨.success, output, ""⟩

def refusal (r : Refusal) : Outcome := ⟨r.status, "", "Error: " ++ r.message ++ "\n"⟩

def noValue (path : String) : Outcome := ⟨.failure, "", "No value at '" ++ path ++ "'\n"⟩

def ofExcept : Except Refusal Outcome → Outcome
  | .ok outcome => outcome
  | .error r => refusal r

end Outcome

/-! ### Without a command -/

def usage : String := String.join <| List.map (· ++ "\n") [
  "Compile field validation rules into bail-aware execution plans",
  "",
  "Usage: ruleplan [OPTIONS] <COMMAND>",
  "",
  "Commands:",
  "  init [--force]                   Write a starter configuration",
  "  compile [FIELD]... [-f FORMAT]   Compile the configured fields",
  "  explain DECLARATION [-f FORMAT]  Compile one declaration",
  "  list [-f FORMAT]                 List all registered rules",
  "  get FILE PATH                    Print the value at a path of a document",
  "  set FILE PATH VALUE              Write a value at a path of a document",
  "",
  "Options:",
  "  --config FILE                    Configuration file, ruleplan.toml by default",
  "  --color WHEN                     auto, always or never",
  "  -f, --format FORMAT              human or jsonl",
  "  -v, --verbose                    Say which files are read and written",
  "  -V, --version                    Print the version",
  "  -h, --help                       Print this text"]

/-- Arguments that make no sense end like any other error. -/
def Stop.outcome : Stop → Outcome
  | version => .answer "ruleplan 0.1.0\n"
  | help => .answer usage
  | misuse e => ⟨.error, "", "error: " ++ e.message ++ "\n"⟩

end FieldRules
