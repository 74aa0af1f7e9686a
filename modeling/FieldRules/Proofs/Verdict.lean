import FieldRules.Proofs.Halting

/-! What marks and the bail keyword cannot change.

They may end a run early and nothing else. Whatever the groups are, what a run
reports is a first part of all that fails, in the order of the rules, and it
reports nothing only where nothing fails (`run_initial`, `run_eq_nil_iff`).

`run_ofRules_initial`: so a report can be cut short, but a value is accepted or
refused however the rules are marked and wherever the keyword stands. -/
namespace FieldRules

namespace Rule

/-- The rule without its mark. -/
def unmarked (r : Rule) : Rule := { r with modifier := .plain }

/-- Without the first bail keyword of either list, the same rules in the same order
but for their marks. -/
def SameButHalting (a b : List Rule) : Prop :=
  (a.eraseP isBailKeyword).map unmarked = (b.eraseP isBailKeyword).map unmarked

theorem failing_cons (v : Json) (r : Rule) (rest : List Rule) :
    failing v (r :: rest) = if r.check v then failing v rest else r :: failing v rest := by
  cases hc : r.check v <;> simp [failing, hc]

theorem failing_eq_nil (v : Json) (rules : List Rule) :
    failing v rules = [] ↔ ∀ r ∈ rules, r.check v = true := by
  simp [failing]

/-- A mark is not looked at when a value is checked. -/
theorem failing_eq_nil_congr (v : Json) {a b : List Rule} (h : a.map unmarked = b.map unmarked) :
    failing v a = [] ↔ failing v b = [] := by
  have hchecks : ∀ rules : List Rule, failing v rules = [] ↔
      ∀ r ∈ rules.map unmarked, r.check v = true := by
    intro rules
    rw [failing_eq_nil, List.forall_mem_map]
    rfl
  rw [hchecks, hchecks, h]

/-- Rules one by one: a run stops somewhere in the list of all that fails. -/
theorem runEach_initial (v : Json) (rules : List (Rule × Bool)) :
    runEach v rules <+: failing v (rules.map Prod.fst) := by
  induction rules with
  | nil => exact List.prefix_rfl
  | cons p rest ih =>
    obtain ⟨r, halts⟩ := p
    rw [List.map_cons, failing_cons, runEach]
    cases hc : r.check v
    · cases halts
      · exact List.cons_prefix_cons.mpr ⟨rfl, ih⟩
      · -- The report ends here, and what would fail later is missing from it.
        exact List.cons_prefix_cons.mpr ⟨rfl, List.nil_prefix⟩
    · exact ih

end Rule

namespace Group

/-- Groups decide which rules halt, not which rules there are. -/
theorem map_fst_flatMap_flagged (groups : List Group) :
    (groups.flatMap flagged).map Prod.fst = groups.flatMap rules := by
  induction groups with
  | nil => rfl
  | cons g rest ih =>
    have hg : g.flagged.map Prod.fst = g.rules := by simp [flagged, Function.comp_def]
    rw [List.flatMap_cons, List.map_append, hg, ih, List.flatMap_cons]

theorem run_initial (v : Json) (groups : List Group) (h : ∀ g ∈ groups, g.WellFormed) :
    run v groups <+: Rule.failing v (groups.flatMap rules) := by
  rw [run_eq_runEach v groups h, ← map_fst_flatMap_flagged]
  exact Rule.runEach_initial v _

theorem run_eq_nil_iff (v : Json) (groups : List Group) (h : ∀ g ∈ groups, g.WellFormed) :
    run v groups = [] ↔ Rule.failing v (groups.flatMap rules) = [] := by
  rw [run_eq_runEach v groups h, Rule.runEach_eq_nil, ← map_fst_flatMap_flagged,
    Rule.failing_eq_nil, List.forall_mem_map]

theorem run_ofRules_eq_nil_iff (v : Json) (rules : List Rule) :
    run v (ofRules rules) = [] ↔ Rule.failing v (rules.eraseP Rule.isBailKeyword) = [] := by
  rw [run_eq_nil_iff v _ (wellFormed_ofRules rules), flatMap_rules_ofRules]

/-- **A run reports a first part of all that fails, and nothing only where nothing
fails**; so rules that are the same but for halting accept the same values. -/
theorem run_ofRules_initial (v : Json) (rules : List Rule) :
    run v (ofRules rules) <+: Rule.failing v (rules.eraseP Rule.isBailKeyword) ∧
      (run v (ofRules rules) = [] → Rule.failing v (rules.eraseP Rule.isBailKeyword) = []) ∧
      ∀ other, Rule.SameButHalting rules other →
        (run v (ofRules rules) = [] ↔ run v (ofRules other) = []) := by
  refine ⟨?_, (run_ofRules_eq_nil_iff v rules).mp, fun other hsame => ?_⟩
  · rw [← flatMap_rules_ofRules]
    exact run_initial v _ (wellFormed_ofRules rules)
  · rw [run_ofRules_eq_nil_iff, run_ofRules_eq_nil_iff]
    exact Rule.failing_eq_nil_congr v hsame

/-- Two rules fail. With a mark on the first, or a keyword before it, it is the only
one reported; either way the value is refused. -/
theorem run_ofRules_initial_two_failing :
    let first := fun modifier => Rule.constant "first" modifier false
    let second := fun modifier => Rule.constant "second" modifier false
    let rules := [first .bailPrefix, second .plain]
    let other := [Rule.constant "Bail" .plain true, first .plain, second .bailPrefix]
    Rule.SameButHalting rules other ∧
      run .null (ofRules rules) <+: Rule.failing .null (rules.eraseP Rule.isBailKeyword) ∧
      (run .null (ofRules rules) = [] ↔ run .null (ofRules other) = []) ∧
      (run .null (ofRules rules)).map Rule.displayName = ["first"] ∧
      (run .null (ofRules other)).map Rule.displayName = ["first"] :=
  ⟨rfl, (run_ofRules_initial .null _).1, (run_ofRules_initial .null _).2.2 _ rfl, by decide,
    by decide⟩

end Group
end FieldRules
