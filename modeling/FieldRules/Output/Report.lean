import FieldRules.Output.Human
import FieldRules.Output.Jsonl

/-! How to report.

`terminal` stands for a terminal that takes colors (`takesColors`). -/
namespace FieldRules

inductive Format where
  | human
  | jsonl
deriving DecidableEq, Repr

inductive Coloring where
  | auto
  | always
  | never
deriving DecidableEq, Repr

structure Report where
  format : Format
  coloring : Coloring
deriving DecidableEq, Repr

/-- A terminal takes colors if its kind is named (`TERM`), is not `dumb`, and no variable
`NO_COLOR` is there, whatever its value. -/
def takesColors (isTerminal : Bool) (kind? noColor? : Option String) : Bool :=
  isTerminal && kind?.any (· != "dumb") && noColor?.isNone

/-- Left to itself, color is for terminals that take it. -/
def Coloring.render (coloring : Coloring) (terminal : Bool) (spans : List Span) : String :=
  match coloring, terminal with
  | always, _ => Span.terminal spans
  | auto, true => Span.terminal spans
  | _, _ => Span.plain spans

namespace Report

def standard : Report := ⟨.human, .auto⟩

/-- With the choices that were made in place of its own. -/
def chosen (r : Report) (format : Option Format) (coloring : Option Coloring) : Report :=
  ⟨format.getD r.format, coloring.getD r.coloring⟩

def plans (r : Report) (terminal : Bool) (c : Compilation) : String :=
  match r.format with
  | .human => r.coloring.render terminal (Human.plans c)
  | .jsonl => Jsonl.plans c

def rules (r : Report) (terminal : Bool) (registry : Registry) : String :=
  match r.format with
  | .human =>
    if registry.isEmpty then "No rules are enabled.\n"
    else r.coloring.render terminal (Human.rules registry)
  | .jsonl => Jsonl.rules registry

end Report
end FieldRules
