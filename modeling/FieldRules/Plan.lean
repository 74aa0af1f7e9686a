import FieldRules.Rule.Declaration
import FieldRules.Dict

/-! The plans of fields.

Fields compile one by one, and none sees another: a declaration that is refused
leaves its field without a plan and the other fields as they are. The outcomes
may come in any order; they are listed by ascending field. -/
namespace FieldRules

structure FieldPlan where
  field : String
  groups : List Group

structure FieldError where
  field : String
  error : RuleError

structure Compilation where
  plans : List FieldPlan
  errors : List FieldError

def FieldPlan.ruleCount (p : FieldPlan) : Nat := (p.groups.flatMap Group.rules).length

abbrev FieldOutcome := String × Except RuleError (List Group)

namespace Compilation

def plan? : FieldOutcome → Option FieldPlan
  | (field, .ok groups) => some ⟨field, groups⟩
  | (_, .error _) => none

def error? : FieldOutcome → Option FieldError
  | (_, .ok _) => none
  | (field, .error error) => some ⟨field, error⟩

/-- In the order of the fields that they are about. -/
def byField {α : Type} (field : α → String) (items : List α) : List α :=
  items.mergeSort fun a b => decide (field a ≤ field b)

def ofOutcomes (outcomes : List FieldOutcome) : Compilation :=
  ⟨byField FieldPlan.field (outcomes.filterMap plan?),
    byField FieldError.field (outcomes.filterMap error?)⟩

def ofFields (lookup : String → Option Validator) (fields : Dict Declaration) : Compilation :=
  ofOutcomes (fields.map fun (field, d) => (field, d.groups lookup))

/-- Every field compiled. -/
def succeeded (c : Compilation) : Bool := c.errors.isEmpty

/-- The plan of a field that compiled. -/
def planOf? (c : Compilation) (field : String) : Option FieldPlan :=
  c.plans.find? fun p => p.field = field

end Compilation

/-- The fields of that name, or the first name that no field has. No name at all
selects every field. -/
def select (fields : Dict Declaration) (requested : List String) :
    Except String (Dict Declaration) :=
  if requested.isEmpty then .ok fields
  else
    match requested.find? fun name => !Dict.contains fields name with
    | some name => .error name
    | none => .ok (fields.filter fun entry => requested.contains entry.1)

end FieldRules
