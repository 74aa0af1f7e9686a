import FieldRules.Rule.Grouping

/-! What a run of groups reports, and of rules taken one by one.

Every rule of a group runs. A halting group with a failing rule is the last that
runs. The rule-by-rule run knows of each rule whether it halts, and stops at the
first failing one that does. Which rules halt is said by the list it is given:
`Rule.marks` has the marked ones halt, `Rule.halting` all of them.

`run_eq_runEach`: a run of groups is the rule-by-rule run in which each rule halts
as its group does. -/
namespace FieldRules

namespace Rule

/-- The rules of a list that a value fails. -/
def failing (v : Json) (rules : List Rule) : List Rule := rules.filter fun r => !r.check v

/-- The failing rules that a rule-by-rule run reports, each rule with whether it
halts. -/
def runEach (v : Json) : List (Rule × Bool) → List Rule
  | [] => []
  | (r, halts) :: rest =>
    if r.check v then runEach v rest
    else if halts then [r] else r :: runEach v rest

/-- Each rule halts if it is marked. -/
def marks (rules : List Rule) : List (Rule × Bool) := rules.map fun r => (r, r.modifier.isBail)

def halting (rules : List Rule) : List (Rule × Bool) := rules.map fun r => (r, true)

@[simp] theorem marks_append (a b : List Rule) : marks (a ++ b) = marks a ++ marks b :=
  List.map_append ..

/-- Rules that do not halt report all that fails and leave the rest to run. -/
theorem runEach_quiet (v : Json) (rules : List Rule) (rest : List (Rule × Bool)) :
    runEach v (rules.map (fun r => (r, false)) ++ rest) = failing v rules ++ runEach v rest := by
  induction rules with
  | nil => rfl
  | cons r tail ih =>
    simp only [List.map_cons, List.cons_append, runEach, failing, List.filter_cons] at ih ⊢
    cases r.check v <;> simp [ih]

end Rule

namespace Group

def failures (g : Group) (v : Json) : List Rule := Rule.failing v g.rules

/-- The failing rules that a run of the groups reports. -/
def run (v : Json) : List Group → List Rule
  | [] => []
  | g :: rest =>
    if g.bail && !(g.failures v).isEmpty then g.failures v else g.failures v ++ run v rest

/-- Each rule halts as the group does. -/
def flagged (g : Group) : List (Rule × Bool) := g.rules.map fun r => (r, g.bail)

theorem runEach_flagged (v : Json) (g : Group) (h : g.WellFormed) (rest : List (Rule × Bool)) :
    Rule.runEach v (g.flagged ++ rest) =
      if g.bail && !(g.failures v).isEmpty then g.failures v
      else g.failures v ++ Rule.runEach v rest := by
  cases hb : g.bail
  · simp only [flagged, hb, Rule.runEach_quiet, failures, Bool.false_and, Bool.false_eq_true,
      if_false]
  · obtain ⟨r, hr⟩ := h.rules_of_bail hb
    cases hc : r.check v <;>
      simp [flagged, failures, Rule.failing, Rule.runEach, hb, hr, hc]

/-- **A run of groups is the rule-by-rule run in which each rule halts as its group
does**, whatever the value, when no halting group holds a second rule. -/
theorem run_eq_runEach (v : Json) (groups : List Group) (h : ∀ g ∈ groups, g.WellFormed) :
    run v groups = Rule.runEach v (groups.flatMap flagged) := by
  induction groups with
  | nil => rfl
  | cons g rest ih =>
    have hg := h g (List.mem_cons_self ..)
    have hrest := ih fun other hm => h other (List.mem_cons_of_mem g hm)
    rw [List.flatMap_cons, runEach_flagged v g hg, ← hrest]
    rfl

end Group
end FieldRules
