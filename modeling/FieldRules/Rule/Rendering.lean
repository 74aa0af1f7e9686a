import FieldRules.Rule.Declaration

/-! The text that declares rules.

A rule is written as its name, with the mark in front of it if it has one, and after a
colon its arguments with commas between them. Where there is no argument there is no
colon either: a colon with nothing behind it is an empty argument. Between rules stand
pipes. -/
namespace FieldRules

def Modifier.mark : Modifier → String
  | plain => ""
  | bailPrefix => "^"

/-- The token of a name, as written, with arguments. -/
def Element.applied (written : String) (args : List String) : String :=
  if args.isEmpty then written else written ++ ":" ++ ",".intercalate args

/-- The name as it is written with the mark of the modifier. -/
def Rule.written (r : Rule) : String := r.modifier.mark ++ r.displayName

def Rule.render (r : Rule) : String := Element.applied r.written r.args

def Declaration.render (rules : List Rule) : String := "|".intercalate (rules.map Rule.render)

end FieldRules
