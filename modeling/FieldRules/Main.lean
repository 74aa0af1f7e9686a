import FieldRules.Command.Run

/-! The program: the commands on the files of the machine. -/
namespace FieldRules.Disk

def reason : IO.Error → IoError
  | .noFileOrDirectory .. => .notFound
  | .inappropriateType _ 21 _ => .isDirectory
  | .inappropriateType .. => .notDirectory
  | .alreadyExists .. => .alreadyExists
  | .invalidArgument _ 36 _ => .nameTooLong
  | e => .other (toString e)

def attempt {α : Type} (action : IO α) : IO (Except IoError α) := do
  try
    return .ok (← action)
  catch e =>
    return .error (reason e)

/-- Something that is there and cannot be read counts as a file. -/
def kind? (name : String) : IO (Option FileKind) := do
  match ← attempt (IO.FS.readBinFile name) with
  | .error .isDirectory => return some .folder
  | .error .notFound => return none
  | .error .notDirectory => return none
  | .error .nameTooLong => return none
  | _ => return some .file

def readText (name : String) : IO (Except IoError String) := do
  match ← attempt (IO.FS.readBinFile name) with
  | .error e => return .error e
  | .ok content =>
    match String.fromUTF8? content with
    | some text => return .ok text
    | none => return .error .invalidText

/-- With a word on the error channel about every file, or without. -/
def files (verbose : Bool) : FileAccess IO where
  kind? := kind?
  readText name := do
    if verbose then IO.eprintln ("reading " ++ name)
    readText name
  writeText name text := do
    if verbose then IO.eprintln ("writing " ++ name)
    attempt (IO.FS.writeFile name text)
  makeFolder name := do
    if verbose then IO.eprintln ("making " ++ name)
    attempt (IO.FS.createDirAll name)

/-- Whether the output goes to a terminal that takes colors. -/
def terminal : IO Bool := do
  return takesColors (← (← IO.getStdout).isTty) (← IO.getEnv "TERM") (← IO.getEnv "NO_COLOR")

end FieldRules.Disk

open FieldRules

def main (arguments : List String) : IO UInt32 := do
  let outcome ←
    match Invocation.ofArguments arguments with
    | .error stop => pure stop.outcome
    | .ok i => i.run (Disk.files i.verbose) (← Disk.terminal)
  IO.print outcome.output
  IO.eprint outcome.complaint
  return .ofNat outcome.status.code
