import FieldRules.Command.Arguments
import FieldRules.Command.Outcome
import FieldRules.Config
import FieldRules.Files.Access
import FieldRules.Files.Name
import FieldRules.Json.Reader
import FieldRules.Json.Writer
import FieldRules.Path.Access

/-! What the commands do.

A command first reads what it needs, then decides, and writes at most one file,
which is the last thing it does. What is decided depends on what was read and not
on the files. -/
namespace FieldRules

/-! ### Deciding -/

def Config.compilation (c : Config) (fields : List String) : Except Refusal Compilation :=
  match c.registry with
  | .error e => .error (.problem (.rule e))
  | .ok registry =>
    match select c.fields fields with
    | .error field => .error (.unknownField field)
    | .ok selected => .ok (.ofFields registry.lookup selected)

/-- The rules there are, with a configuration or without one. -/
def Config.registryOf (c : Option Config) : Except Refusal Registry :=
  match c with
  | none => .ok .builtins
  | some c =>
    match c.registry with
    | .error e => .error (.problem (.rule e))
    | .ok registry => .ok registry

def Config.reportOf (c : Option Config) : Report :=
  match c with
  | none => .standard
  | some c => c.report

/-- How a command is to report. -/
structure Choice where
  format : Option Format
  coloring : Option Coloring
  terminal : Bool

namespace Choice

def plans (choice : Choice) (report : Report) (c : Compilation) : Outcome :=
  ⟨if c.succeeded then .success else .failure,
    (report.chosen choice.format choice.coloring).plans choice.terminal c, ""⟩

def rules (choice : Choice) (report : Report) (registry : Registry) : Outcome :=
  .answer ((report.chosen choice.format choice.coloring).rules choice.terminal registry)

end Choice

namespace Command

def compiled (choice : Choice) (fields : List String) (c : Config) : Except Refusal Outcome :=
  (c.compilation fields).map (choice.plans c.report)

/-- A declaration compiles as a field whose name is the declaration itself. -/
def explained (choice : Choice) (declaration : String) (c : Option Config) :
    Except Refusal Outcome :=
  (Config.registryOf c).map fun registry =>
    choice.plans (Config.reportOf c)
      (.ofFields registry.lookup [(declaration, Declaration.ofText declaration)])

def listed (choice : Choice) (c : Option Config) : Except Refusal Outcome :=
  (Config.registryOf c).map (choice.rules (Config.reportOf c))

def found (path : String) (doc : Json) : Outcome :=
  match (Path.ofText path).get? doc with
  | some v => .answer (v.pretty ++ "\n")
  | none => .noValue path

/-- The text of a document with a value set in it. -/
def changed (path : String) (v doc : Json) : String :=
  ((Path.ofText path).set v doc).pretty ++ "\n"

/-! ### Reading and writing -/

section
variable {m : Type → Type} [Monad m] (files : FileAccess m)

def loadConfig (file : String) : m (Except Refusal Config) := do
  match ← files.readText file with
  | .error e => return .error (.problem (.config (.io e)))
  | .ok text =>
    match Config.ofText text with
    | .error e => return .error (.problem (.config e))
    | .ok c => return .ok c

/-- The configuration, which there may be none of. -/
def config? (file : String) : m (Except Refusal (Option Config)) := do
  match ← files.kind? file with
  | none => return .ok none
  | some _ => return (← loadConfig files file).map some

def config (file : String) : m (Except Refusal Config) := do
  match ← files.kind? file with
  | none => return .error (.problem (.config (.missing file)))
  | some _ => loadConfig files file

def document (file : String) : m (Except DocumentError Json) := do
  match ← files.readText file with
  | .error e => return .error (.io file e)
  | .ok text =>
    match Json.ofText? text with
    | none => return .error (.notJson file)
    | some doc => return .ok doc

/-- What is in a file, or an empty object if there is none. -/
def documentOrEmpty (file : String) : m (Except DocumentError Json) := do
  match ← files.kind? file with
  | none => return .ok (.object [])
  | some _ => document files file

def write (file text : String) (refusal : IoError → Refusal) (outcome : Outcome) : m Outcome := do
  match ← files.writeText file text with
  | .error e => return .refusal (refusal e)
  | .ok () => return outcome

def writeStarter (file : String) (outcome : Outcome) : m Outcome :=
  write files file Config.starter (fun e => .problem (.io e)) outcome

/-- The folder of a file, made if it is missing. -/
def makeFolderOf (file : String) : m (Except IoError Unit) := do
  match FileName.folder? file with
  | none => return .ok ()
  | some folder =>
    match ← files.kind? folder with
    | some _ => return .ok ()
    | none => files.makeFolder folder

/-! ### Commands -/

def runInit (file : String) (force : Bool) : m Outcome := do
  match ← files.kind? file with
  | some .folder => return .refusal (.folder file)
  | some .file =>
    if force then writeStarter files file (.answer ("Overwrote " ++ file ++ ".\n"))
    else return .answer (file ++ " already exists. Use --force to overwrite it.\n")
  | none =>
    match ← makeFolderOf files file with
    | .error e => return .refusal (.problem (.io e))
    | .ok () =>
      writeStarter files file (.answer
        ("Created " ++ file ++ ". Add field declarations under [fields] to start compiling.\n"))

def runCompile (file : String) (choice : Choice) (fields : List String) : m Outcome := do
  return .ofExcept ((← config files file).bind (compiled choice fields))

def runExplain (file : String) (choice : Choice) (declaration : String) : m Outcome := do
  return .ofExcept ((← config? files file).bind (explained choice declaration))

def runList (file : String) (choice : Choice) : m Outcome := do
  return .ofExcept ((← config? files file).bind (listed choice))

def runGet (file path : String) : m Outcome := do
  match ← document files file with
  | .error e => return .refusal (.document e)
  | .ok doc => return found path doc

/-- The value is looked at before the document. -/
def runSet (file path value : String) : m Outcome := do
  match Json.ofText? value with
  | none => return .refusal (.document (.notJson "value argument"))
  | some v =>
    match ← documentOrEmpty files file with
    | .error e => return .refusal (.document e)
    | .ok doc =>
      write files file (changed path v doc) (fun e => .document (.io file e)) (.answer "")

end
end Command

def Invocation.run {m : Type → Type} [Monad m] (files : FileAccess m) (terminal : Bool)
    (i : Invocation) : m Outcome :=
  match i.command with
  | .init force => Command.runInit files i.config force
  | .compile fields format => Command.runCompile files i.config ⟨format, i.coloring, terminal⟩ fields
  | .explain declaration format =>
    Command.runExplain files i.config ⟨format, i.coloring, terminal⟩ declaration
  | .list format => Command.runList files i.config ⟨format, i.coloring, terminal⟩
  | .get file path => Command.runGet files file path
  | .set file path value => Command.runSet files file path value

end FieldRules
