import FieldRules.Output.Report

/-! The command line.

It is read word by word, from the left. A word with a dash in front is an option;
any other word is the value of the option before it, if that one wants a value,
and else an operand. The first operand names the command. Some options belong to
every command and may also stand before its name, and then what follows the name
counts more. After a word of two dashes there are operands only. The command that
explains another one takes every word as an operand. -/
namespace FieldRules

inductive Command where
  | init (force : Bool)
  | compile (fields : List String) (format : Option Format)
  | explain (declaration : String) (format : Option Format)
  | list (format : Option Format)
  | get (file path : String)
  | set (file path value : String)
deriving DecidableEq, Repr

structure Invocation where
  config : String
  coloring : Option Coloring
  verbose : Bool
  command : Command
deriving DecidableEq, Repr

/-! ### Words -/

inductive CommandName where
  | init
  | compile
  | explain
  | list
  | get
  | set
  | help
deriving DecidableEq, Repr

inductive Flag where
  | config
  | color
  | format
  | force
  | verbose
  | version
  | help
deriving DecidableEq, Repr

def CommandName.ofText? : String → Option CommandName
  | "init" => some init
  | "compile" => some compile
  | "explain" => some explain
  | "list" => some list
  | "get" => some get
  | "set" => some set
  | "help" => some help
  | _ => none

/-- How many operands a command takes, unless it takes any number. -/
def CommandName.arity? : CommandName → Option Nat
  | init => some 0
  | compile => none
  | explain => some 1
  | list => some 0
  | get => some 2
  | set => some 3
  | help => some 1

namespace Flag

def ofText? : String → Option Flag
  | "config" => some config
  | "color" => some color
  | "format" => some format
  | "force" => some force
  | "verbose" => some verbose
  | "version" => some version
  | "help" => some help
  | _ => none

def ofLetter? : Char → Option Flag
  | 'f' => some format
  | 'v' => some verbose
  | 'V' => some version
  | 'h' => some help
  | _ => none

def text : Flag → String
  | config => "--config"
  | color => "--color"
  | format => "--format"
  | force => "--force"
  | verbose => "--verbose"
  | version => "--version"
  | help => "--help"

def takesValue : Flag → Bool
  | config => true
  | color => true
  | format => true
  | _ => false

/-- Where an option may stand: after the name of a command, or before any. -/
def belongsTo : Flag → Option CommandName → Bool
  | format, some .compile => true
  | format, some .explain => true
  | format, some .list => true
  | format, _ => false
  | force, some .init => true
  | force, _ => false
  | version, none => true
  | version, some _ => false
  | _, _ => true

end Flag

def Format.ofText? : String → Option Format
  | "human" => some human
  | "jsonl" => some jsonl
  | _ => none

def Coloring.ofText? : String → Option Coloring
  | "auto" => some auto
  | "always" => some always
  | "never" => some never
  | _ => none

/-! ### What stops the reading -/

inductive UsageError where
  | noCommand
  | unknownCommand (word : String)
  | unknownOption (word : String)
  | missingValue (flag : Flag)
  | badValue (flag : Flag) (value : String)
  | unwantedValue (flag : Flag)
  | repeated (flag : Flag)
  | missingOperand
  | unwantedOperand (word : String)
  | emptyFile
deriving DecidableEq, Repr

def UsageError.message : UsageError → String
  | noCommand => "no command is given"
  | unknownCommand word => "there is no command '" ++ word ++ "'"
  | unknownOption word => "there is no option '" ++ word ++ "' here"
  | missingValue flag => flag.text ++ " needs a value"
  | badValue flag value => flag.text ++ " cannot be '" ++ value ++ "'"
  | unwantedValue flag => flag.text ++ " takes no value"
  | repeated flag => flag.text ++ " is given twice"
  | missingOperand => "an argument is missing"
  | unwantedOperand word => "the argument '" ++ word ++ "' is too many"
  | emptyFile => "the name of a file is empty"

inductive Stop where
  | version
  | help
  | misuse (e : UsageError)
deriving DecidableEq, Repr

/-! ### Reading -/

structure Options where
  config : Option String
  coloring : Option Coloring
  format : Option Format
  force : Bool
  verbose : Bool
deriving DecidableEq, Repr

def Options.none : Options := ⟨.none, .none, .none, false, false⟩

/-- What has been read. An option may be waiting for its value, and all that is left
may be operands. -/
structure Reading where
  command : Option CommandName
  before : Options
  options : Options
  operands : List String
  waiting : Option Flag
  operandsOnly : Bool
deriving DecidableEq, Repr

namespace Reading

def start : Reading := ⟨none, .none, .none, [], none, false⟩

def misuse {α : Type} (e : UsageError) : Except Stop α := .error (.misuse e)

/-- An option without a value. -/
def turnOn (r : Reading) : Flag → Except Stop Reading
  | .version => .error .version
  | .help => .error .help
  | .force =>
    if r.options.force then misuse (.repeated .force)
    else .ok {r with options := {r.options with force := true}}
  | .verbose =>
    if r.options.verbose then misuse (.repeated .verbose)
    else .ok {r with options := {r.options with verbose := true}}
  | flag => misuse (.missingValue flag)

/-- An option with its value. -/
def assign (r : Reading) (flag : Flag) (value : String) : Except Stop Reading :=
  match flag with
  | .config =>
    if r.options.config.isSome then misuse (.repeated .config)
    else if value.isEmpty then misuse (.badValue .config value)
    else .ok {r with options := {r.options with config := some value}}
  | .color =>
    match Coloring.ofText? value with
    | none => misuse (.badValue .color value)
    | some coloring =>
      if r.options.coloring.isSome then misuse (.repeated .color)
      else .ok {r with options := {r.options with coloring := some coloring}}
  | .format =>
    match Format.ofText? value with
    | none => misuse (.badValue .format value)
    | some format =>
      if r.options.format.isSome then misuse (.repeated .format)
      else .ok {r with options := {r.options with format := some format}}
  | flag => misuse (.unwantedValue flag)

/-- An option whose name is written out, with a value after an equals sign or not. -/
def long (r : Reading) (text : List Char) : Except Stop Reading :=
  let name := String.ofList (text.takeWhile (· ≠ '='))
  match (Flag.ofText? name).filter fun flag => flag.belongsTo r.command with
  | none => misuse (.unknownOption ("--" ++ name))
  | some flag =>
    match text.dropWhile (· ≠ '=') with
    | _ :: value => r.assign flag (String.ofList value)
    | [] => if flag.takesValue then .ok {r with waiting := some flag} else r.turnOn flag

/-- Options of one letter, in one word. What follows one that takes a value is that
value, with an equals sign in front or not. -/
def letters (r : Reading) : List Char → Except Stop Reading
  | [] => .ok r
  | letter :: rest =>
    match (Flag.ofLetter? letter).filter fun flag => flag.belongsTo r.command with
    | none => misuse (.unknownOption (String.ofList ['-', letter]))
    | some flag =>
      if flag.takesValue then
        match rest with
        | [] => .ok {r with waiting := some flag}
        | '=' :: value => r.assign flag (String.ofList value)
        | value => r.assign flag (String.ofList value)
      else
        match r.turnOn flag with
        | .error stop => .error stop
        | .ok r => r.letters rest

/-- The name of a command. Options count from there on anew. -/
def named (r : Reading) (text : String) : Except Stop Reading :=
  match CommandName.ofText? text with
  | none => misuse (.unknownCommand text)
  | some name => .ok {r with
      command := some name
      before := r.options
      options := .none
      operandsOnly := decide (name = .help) }

def operand (r : Reading) (text : String) : Except Stop Reading :=
  match r.command with
  | none => if r.operandsOnly then misuse (.unwantedOperand text) else r.named text
  | some name =>
    if name.arity? = some r.operands.length then misuse (.unwantedOperand text)
    else if name = .help ∧ CommandName.ofText? text = none then misuse (.unknownCommand text)
    else .ok {r with operands := r.operands ++ [text]}

def word (r : Reading) (text : String) : Except Stop Reading :=
  if r.operandsOnly then r.operand text
  else
    match text.toList, r.waiting with
    | '-' :: _ :: _, some flag => misuse (.missingValue flag)
    | ['-', '-'], none => .ok {r with operandsOnly := true}
    | '-' :: '-' :: text, none => r.long text
    | '-' :: letter :: text, none => r.letters (letter :: text)
    | _, some flag => {r with waiting := none}.assign flag text
    | _, none => r.operand text

def command? (r : Reading) : Except Stop Command :=
  match r.command, r.operands with
  | none, _ => misuse .noCommand
  | some .init, _ => .ok (.init r.options.force)
  | some .compile, fields => .ok (.compile fields r.options.format)
  | some .explain, [declaration] => .ok (.explain declaration r.options.format)
  | some .list, _ => .ok (.list r.options.format)
  | some .get, [file, path] =>
    if file.isEmpty then misuse .emptyFile else .ok (.get file path)
  | some .set, [file, path, value] =>
    if file.isEmpty then misuse .emptyFile else .ok (.set file path value)
  | some .help, _ => .error .help
  | _, _ => misuse .missingOperand

def finish (r : Reading) : Except Stop Invocation :=
  match r.waiting, r.command? with
  | some flag, _ => misuse (.missingValue flag)
  | none, .error stop => .error stop
  | none, .ok command => .ok {
      config := (r.options.config <|> r.before.config).getD "ruleplan.toml"
      coloring := r.options.coloring <|> r.before.coloring
      verbose := r.before.verbose || r.options.verbose
      command := command }

end Reading

def Invocation.ofArguments (arguments : List String) : Except Stop Invocation :=
  (arguments.foldlM Reading.word Reading.start).bind Reading.finish

end FieldRules
