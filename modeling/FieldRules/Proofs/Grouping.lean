import FieldRules.Rule.Declaration

/-! What the groups of a declaration hold.

`groups_hold_rules`: whatever a declaration is and whatever is registered, its
groups hold the rules that it declares, in order and as they are; only the first
bail keyword is missing. No group is empty, and a halting group is a single rule. -/
namespace FieldRules.Declaration

theorem rules_of_groups {lookup : String → Option Validator} {d : Declaration}
    {groups : List Group} (h : d.groups lookup = .ok groups) :
    ∃ rules, d.rules lookup = .ok rules ∧ groups = Group.ofRules rules := by
  unfold Declaration.groups at h
  cases hr : d.rules lookup with
  | error problem =>
    rw [hr] at h
    cases h
  | ok rules =>
    rw [hr] at h
    cases h
    exact ⟨rules, rfl, rfl⟩

/-- **The groups of a declaration hold its rules, less the first bail keyword.** -/
theorem groups_hold_rules (lookup : String → Option Validator) (d : Declaration)
    (groups : List Group) (h : d.groups lookup = .ok groups) :
    ∃ rules, d.rules lookup = .ok rules ∧
      groups.flatMap Group.rules = rules.eraseP Rule.isBailKeyword ∧
      (∀ g ∈ groups, g.rules ≠ []) ∧ ∀ g ∈ groups, g.bail = true → ∃ r, g.rules = [r] := by
  obtain ⟨rules, hrules, rfl⟩ := rules_of_groups h
  have hform := Group.wellFormed_ofRules rules
  exact ⟨rules, hrules, Group.flatMap_rules_ofRules rules, fun g hg => (hform g hg).rules_ne_nil,
    fun g hg => (hform g hg).rules_of_bail⟩

/-- Two bail keywords, the first in upper case: the second stays, as a rule. -/
theorem groups_hold_rules_two_keywords :
    let lookup := fun name => some (⟨.supplied name, fun _ _ => true⟩ : Validator)
    let d := pipe "^a|^b|BAIL|^c:1,2|bail"
    ∃ groups, d.groups lookup = .ok groups ∧
      groups.map Group.names = [["a"], ["b"], ["c"], ["bail"]] ∧
      ∃ rules, d.rules lookup = .ok rules ∧
        groups.flatMap Group.rules = rules.eraseP Rule.isBailKeyword ∧
        (∀ g ∈ groups, g.rules ≠ []) ∧ ∀ g ∈ groups, g.bail = true → ∃ r, g.rules = [r] :=
  ⟨_, rfl, rfl, groups_hold_rules _ _ _ rfl⟩

end FieldRules.Declaration
