import FieldRules.Json.Writer
import FieldRules.Rule.Error
import FieldRules.Rule.Grouping

/-! How rules are declared.

A declaration is a text with pipes between its tokens, or a list of elements.
Either way it is read as elements in order (`Declaration.elements`). A token is a
name and, after a colon, arguments with commas between them; a sequence has its
head and arguments apart. An unknown name in a token refuses the declaration,
and in a sequence it drops the element. -/
namespace FieldRules

inductive Head where
  | name (written : String)
  | callable (validator : Validator)

inductive Element where
  | token (text : String)
  | sequence (head : Head) (args : List String)
  | callable (validator : Validator)
  /-- Declares nothing. -/
  | other

inductive Declaration where
  | empty
  | pipe (text : String)
  | list (elements : List Element)

namespace Element

/-- A string argument is its own text, any other value its compact text. -/
def argText : Json → String
  | .string s => s
  | v => v.text

def ofJson : Json → Element
  | .string s => token s
  | .array (.string head :: args) => sequence (.name head) (args.map argText)
  | _ => other

/-- What stands before the first colon, and the arguments after it. -/
def parts (token : String) : String × List String :=
  let name := token.toList.takeWhile (· ≠ ':')
  match token.toList.dropWhile (· ≠ ':') with
  | _ :: args => (String.ofList name, (args.splitOn ',').map String.ofList)
  | [] => (String.ofList name, [])

variable (lookup : String → Option Validator)

/-- The rule of a name as written, if what it resolves to is registered. -/
def named? (written : String) (args : List String) : Option Rule :=
  let (name, modifier) := RuleName.resolve written
  (lookup name).map fun validator => ⟨validator, args, some name, modifier⟩

def rule? : Element → Except RuleError (Option Rule)
  | token text =>
    let (written, args) := parts text
    match named? lookup written args with
    | some rule => .ok (some rule)
    | none => .error (.unknownRule written)
  | sequence (.name written) args => .ok (named? lookup written args)
  | sequence (.callable validator) args => .ok (some (.direct validator args))
  | callable validator => .ok (some (.direct validator []))
  | other => .ok none

/-- The rules of elements in order, or the error of the first that has one. -/
def rules : List Element → Except RuleError (List Rule)
  | [] => .ok []
  | e :: rest =>
    match e.rule? lookup with
    | .error problem => .error problem
    | .ok rule? => (rules rest).map (rule?.toList ++ ·)

end Element

namespace Declaration

def ofText (text : String) : Declaration := if text.isEmpty then empty else pipe text

def ofJson : Json → Declaration
  | .string s => ofText s
  | .array items => list (items.map Element.ofJson)
  | _ => empty

def isEmpty : Declaration → Bool
  | empty => true
  | pipe text => text.isEmpty
  | list elements => elements.isEmpty

def elements : Declaration → List Element
  | empty => []
  | pipe text =>
    if text.isEmpty then []
    else (text.toList.splitOn '|').map fun token => .token (String.ofList token)
  | list elements => elements

def rules (lookup : String → Option Validator) (d : Declaration) :
    Except RuleError (List Rule) :=
  Element.rules lookup d.elements

def groups (lookup : String → Option Validator) (d : Declaration) :
    Except RuleError (List Group) :=
  (d.rules lookup).map Group.ofRules

end Declaration
end FieldRules
