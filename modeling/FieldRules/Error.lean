import FieldRules.Rule.Error

/-! What can go wrong, and how it is said. -/
namespace FieldRules

/-- Why a file could not be read or written. -/
inductive IoError where
  | notFound
  | notDirectory
  | isDirectory
  | invalidText
  | alreadyExists
  | nameTooLong
  | other (detail : String)
deriving DecidableEq, Repr

def IoError.message : IoError → String
  | notFound => "No such file or directory (os error 2)"
  | notDirectory => "Not a directory (os error 20)"
  | isDirectory => "Is a directory (os error 21)"
  | invalidText => "stream did not contain valid UTF-8"
  | alreadyExists => "File exists (os error 17)"
  | nameTooLong => "File name too long (os error 36)"
  | other detail => detail

inductive ConfigError where
  | io (e : IoError)
  | malformed
  | invalid (detail : String)
deriving DecidableEq, Repr

namespace ConfigError

def missing (file : String) : ConfigError :=
  .io (.other (file ++ " not found. Run 'ruleplan init' to create it."))

def unsupportedVersion (version : String) : ConfigError :=
  .invalid ("Unsupported configuration version '" ++ version ++ "'. Expected '1'")

def emptyRuleName : ConfigError := .invalid "Custom rule names must not be empty"

def badPattern (name pattern : String) : ConfigError :=
  .invalid ("Invalid pattern '" ++ pattern ++ "' for custom rule '" ++ name ++ "': <regex error>")

def badField (field : String) : ConfigError :=
  .invalid ("Invalid field path '" ++ field ++ "': segments must not be empty")

def message : ConfigError → String
  | io e => "I/O error: " ++ e.message
  | malformed => "Invalid configuration syntax: <toml error>"
  | invalid detail => "Invalid configuration: " ++ detail

end ConfigError

/-- What is wrong with a document to look into, or with a value to put there. -/
inductive DocumentError where
  | io (file : String) (e : IoError)
  | notJson (context : String)
deriving DecidableEq, Repr

def DocumentError.message : DocumentError → String
  | io file e => "Failed to access " ++ file ++ ": " ++ e.message
  | notJson context => "Invalid JSON in " ++ context ++ ": <json error>"

inductive Problem where
  | config (e : ConfigError)
  | rule (e : RuleError)
  | document (e : DocumentError)
  | io (e : IoError)
deriving DecidableEq, Repr

def Problem.message : Problem → String
  | config e => "Configuration error: " ++ e.message
  | rule e => "Rule error: " ++ e.message
  | document e => "Path error: " ++ e.message
  | io e => "I/O error: " ++ e.message

end FieldRules
