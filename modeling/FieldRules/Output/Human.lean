import FieldRules.Output.Styled
import FieldRules.Plan
import FieldRules.Rule.Registry

/-! Plans and rules as people read them. -/
namespace FieldRules.Human

/-- `name(argument, argument)`, with the mark of a marked rule. -/
def describe (r : Rule) : List Char :=
  (if r.modifier.isBail then ['^'] else []) ++ r.displayName.toList ++
    if r.args.isEmpty then [] else '(' :: [',', ' '].intercalate (r.args.map String.toList) ++ [')']

def described (g : Group) : List Char := [',', ' '].intercalate (g.rules.map describe)

/-- A group under its number, which counts from one. -/
def groupSpans (number : Nat) (g : Group) : List Span :=
  .text ("  [".toList ++ Nat.toDigits 10 number ++ "] ".toList) ::
    (if g.bail then [.style (.colored .yellow), .text "bail ".toList, .reset]
      else [.text "     ".toList]) ++
    [.line (described g)]

def planSpans (p : FieldPlan) : List Span :=
  [.style .boldface, .line p.field.toList, .reset] ++
    (if p.groups.isEmpty then [.line "  (no rules)".toList] else []) ++
    p.groups.zipIdx.flatMap fun (g, index) => groupSpans (index + 1) g

def errorSpans (e : FieldError) : List Span :=
  [.style .boldface, .line e.field.toList, .style (.colored .red),
    .line ("  error: ".toList ++ e.error.message.toList), .reset]

def summarySpans (c : Compilation) : List Span :=
  let compiled := "Compiled ".toList ++ Nat.toDigits 10 c.plans.length ++ " field(s)".toList
  if c.succeeded then [.style (.colored .green), .line compiled, .reset]
  else
    [.style (.colored .red),
      .line (compiled ++ ", ".toList ++ Nat.toDigits 10 c.errors.length ++ " failed".toList), .reset]

def plans (c : Compilation) : List Span :=
  c.plans.flatMap planSpans ++ c.errors.flatMap errorSpans ++ [.line []] ++ summarySpans c

/-! ### Rules -/

/-- With blanks after it up to that many characters. -/
def padded (width : Nat) (text : List Char) : List Char :=
  text ++ List.replicate (width - text.length) ' '

def ruleSpans (r : RegisteredRule) : List Span :=
  [.style .boldface, .text (padded 12 r.name.toList), .reset,
    .line (' ' :: padded 8 r.source.text.toList ++ ' ' :: r.description.toList)]

def rules (r : Registry) : List Span := r.entries.flatMap ruleSpans

end FieldRules.Human
