import FieldRules.Proofs.Declared
import FieldRules.Proofs.Grouping
import FieldRules.Proofs.Listed
import Mathlib.Data.List.Forall2

/-! Declarations under a larger vocabulary.

A vocabulary keeps another one if each name of the other has the same validator in it, by
its handle. Then an element declares what it declared before (`Element.Declares.kept`), and
no name that was known becomes unknown. Only a sequence whose name was not known can come
to declare a rule that it did not, in between the others (`Element.InOrder.kept`).

`Declaration.rules_of_keeps`: what compiled before compiles, with its rules in their order.
Without such a sequence nothing is added, and rules and groups are the same. -/
namespace FieldRules

/-! ### Rules and groups that are the same -/

namespace Rule

abbrev Same (a b : Rule) : Prop := a.same b = true

theorem same_iff (a b : Rule) :
    a.Same b ↔ a.validator.handle = b.validator.handle ∧ a.args = b.args ∧ a.name = b.name ∧
      a.modifier = b.modifier := by
  simp only [Same, same, Bool.and_eq_true, decide_eq_true_eq, and_assoc]

theorem same_refl (r : Rule) : r.Same r := (same_iff r r).mpr ⟨rfl, rfl, rfl, rfl⟩

theorem Same.isBailKeyword {a b : Rule} (h : a.Same b) : a.isBailKeyword = b.isBailKeyword := by
  rw [Rule.isBailKeyword, ((same_iff a b).mp h).2.2.1, ← Rule.isBailKeyword]

theorem Same.modifier {a b : Rule} (h : a.Same b) : a.modifier = b.modifier :=
  ((same_iff a b).mp h).2.2.2

end Rule

namespace Group

/-- Group by group the same, as a relation. -/
abbrev SameAll : List Group → List Group → Prop := List.Forall₂ fun g h => g.same h = true

theorem sameAll_iff (a b : List Group) : sameAll a b = true ↔ SameAll a b := by
  simp [sameAll, List.forall₂_iff_zip]

theorem same_of_rules {a b : List Rule} (h : List.Forall₂ Rule.Same a b) (bail : Bool) :
    same ⟨a, bail⟩ ⟨b, bail⟩ = true := by
  simpa [same, List.forall₂_iff_zip] using h

theorem same_single {a b : Rule} (h : a.Same b) (bail : Bool) :
    same ⟨[a], bail⟩ ⟨[b], bail⟩ = true :=
  same_of_rules (.cons h .nil) bail

section
variable {a b run run' : List Rule}

theorem same_ofRun (h : List.Forall₂ Rule.Same run run') : SameAll (ofRun run) (ofRun run') := by
  cases h with
  | nil => exact .nil
  | cons hr hrest => exact .cons (same_of_rules (.cons hr hrest) false) .nil

theorem isEmpty_eq_of_same (h : List.Forall₂ Rule.Same a b) : a.isEmpty = b.isEmpty := by
  cases h <;> rfl

theorem same_ofMarks (hrun : List.Forall₂ Rule.Same run run') (h : List.Forall₂ Rule.Same a b) :
    SameAll (ofMarks run a) (ofMarks run' b) := by
  induction h generalizing run run' with
  | nil => exact same_ofRun hrun
  | cons hr hrest ih =>
    rw [ofMarks, ofMarks, hr.modifier, isEmpty_eq_of_same hrun, isEmpty_eq_of_same hrest]
    split
    · exact List.rel_append (same_ofRun hrun) (.cons (same_single hr true) (ih .nil))
    · exact ih (List.rel_append hrun (.cons hr .nil))

theorem same_takeWhile (h : List.Forall₂ Rule.Same a b) :
    List.Forall₂ Rule.Same (a.takeWhile fun r => !r.isBailKeyword)
      (b.takeWhile fun r => !r.isBailKeyword) := by
  induction h with
  | nil => exact .nil
  | cons hr hrest ih =>
    rw [List.takeWhile_cons, List.takeWhile_cons, hr.isBailKeyword]
    split
    · exact .cons hr ih
    · exact .nil

theorem same_dropWhile (h : List.Forall₂ Rule.Same a b) :
    List.Forall₂ Rule.Same (a.dropWhile fun r => !r.isBailKeyword)
      (b.dropWhile fun r => !r.isBailKeyword) := by
  induction h with
  | nil => exact .nil
  | cons hr hrest ih =>
    rw [List.dropWhile_cons, List.dropWhile_cons, hr.isBailKeyword]
    split
    · exact ih
    · exact .cons hr hrest

/-- Rules that are the same fall into the same groups. -/
theorem same_ofRules (h : List.Forall₂ Rule.Same a b) : SameAll (ofRules a) (ofRules b) := by
  have hlater := List.forall₂_drop 1 (same_dropWhile h)
  refine List.rel_append (same_ofMarks .nil (same_takeWhile h)) ?_
  rw [List.forall₂_map_left_iff, List.forall₂_map_right_iff]
  exact hlater.imp fun _ _ hr => same_single hr true

end

end Group

/-! ### Vocabularies -/

/-- A name of the smaller vocabulary has the same validator in the larger one, by its handle. -/
def Keeps (lookup larger : String → Option Validator) : Prop :=
  ∀ name validator, lookup name = some validator →
    ∃ other, larger name = some other ∧ other.handle = validator.handle

namespace Registry

theorem keeps_register {r : Registry} {rule : RegisteredRule}
    (hnew : r.contains rule.name = false) : Keeps r.lookup (r.register rule).lookup := by
  intro name validator h
  have hne : rule.name ≠ name := by
    rintro rfl
    rw [contains_eq, ← Option.isSome_map, ← lookup, h] at hnew
    cases hnew
  refine ⟨validator, ?_, rfl⟩
  rw [lookup, get?_register, if_neg hne]
  exact h

end Registry

namespace Element
variable {lookup larger : String → Option Validator}

theorem Declares.kept (hkeeps : Keeps lookup larger) {e : Element} {r : Rule}
    (h : e.Declares lookup r) : ∃ r', e.Declares larger r' ∧ r.Same r' := by
  rcases h with ⟨hreads, hl⟩ | hl | ⟨validator, args⟩ | validator
  · obtain ⟨other, hlarger, hhandle⟩ := hkeeps _ _ hl
    exact ⟨_, .token hreads hlarger, (Rule.same_iff ..).mpr ⟨hhandle.symm, rfl, rfl, rfl⟩⟩
  · obtain ⟨other, hlarger, hhandle⟩ := hkeeps _ _ hl
    exact ⟨_, .named hlarger, (Rule.same_iff ..).mpr ⟨hhandle.symm, rfl, rfl, rfl⟩⟩
  · exact ⟨_, .given validator args, Rule.same_refl _⟩
  · exact ⟨_, .callable validator, Rule.same_refl _⟩

theorem Unknown.of_larger (hkeeps : Keeps lookup larger) {e : Element} {written : String}
    (h : e.Unknown larger written) : e.Unknown lookup written := by
  obtain ⟨text, args, rfl, hreads, hlarger⟩ := h
  refine ⟨text, args, rfl, hreads, Option.eq_none_iff_forall_ne_some.mpr ?_⟩
  intro validator hl
  obtain ⟨other, hother, -⟩ := hkeeps _ _ hl
  rw [hlarger] at hother
  cases hother

/-- Every element declares nothing in the larger vocabulary that it does not declare in the
smaller one. -/
def Settled (lookup larger : String → Option Validator) (es : List Element) : Prop :=
  ∀ e ∈ es, ∀ r', e.Declares larger r' → ∃ r, e.Declares lookup r

theorem settled_cons (e : Element) (rest : List Element) :
    Settled lookup larger (e :: rest) ↔
      (∀ r', e.Declares larger r' → ∃ r, e.Declares lookup r) ∧ Settled lookup larger rest :=
  List.forall_mem_cons

/-- The rules are kept in their order. They are all there are only if no element has come
to declare one. -/
theorem InOrder.kept (hkeeps : Keeps lookup larger) {es : List Element} {rules : List Rule}
    (h : InOrder lookup es rules) :
    ∃ rules', InOrder larger es rules' ∧ List.SublistForall₂ Rule.Same rules rules' ∧
      (List.Forall₂ Rule.Same rules rules' ↔ Settled lookup larger es) := by
  induction h with
  | nil => exact ⟨[], .nil, .nil, fun _ => List.forall_mem_nil _, fun _ => .nil⟩
  | @declared e r rest rules hr hrest ih =>
    obtain ⟨rules', hinOrder, hsub, hall⟩ := ih
    obtain ⟨r', hr', hsame⟩ := hr.kept hkeeps
    refine ⟨r' :: rules', .declared hr' hinOrder, .cons hsame hsub, ?_⟩
    rw [List.forall₂_cons, hall, settled_cons]
    exact and_congr_left fun _ => ⟨fun _ _ _ => ⟨r, hr⟩, fun _ => hsame⟩
  | @silent e rest rules hnone hrest ih =>
    obtain ⟨rules', hinOrder, hsub, hall⟩ := ih
    by_cases hnew : ∃ r', e.Declares larger r'
    · -- A rule of its own stands before the others, so there is one too many.
      obtain ⟨r', hr'⟩ := hnew
      refine ⟨r' :: rules', .declared hr' hinOrder, .cons_right hsub, fun hsame => ?_, ?_⟩
      · obtain ⟨kept, hkept, hle⟩ := List.sublistForall₂_iff.mp hsub
        have h₁ := hsame.length_eq
        have h₂ := hkept.length_eq
        have h₃ := hle.length_le
        rw [List.length_cons] at h₁
        omega
      · intro hsettled
        obtain ⟨r, hr⟩ := hsettled e (List.mem_cons_self ..) r' hr'
        exact absurd hr (hnone r)
    · refine ⟨rules', .silent (not_exists.mp hnew) hinOrder, hsub, ?_⟩
      rw [hall, settled_cons]
      exact (and_iff_right fun r' hr' => absurd ⟨r', hr'⟩ hnew).symm

end Element

namespace Declaration
variable {lookup larger : String → Option Validator}

/-- Nothing in the declaration is dropped for its name. -/
inductive Named (lookup : String → Option Validator) : Declaration → Prop where
  | empty : Named lookup empty
  | pipe (text : String) : Named lookup (pipe text)
  | list {es : List Element} :
      (∀ written args, .sequence (.name written) args ∈ es →
        ∃ validator, lookup (RuleName.resolve written).1 = some validator) →
      Named lookup (list es)

/-- The name of a sequence that is listed is registered: the elements of a text are tokens. -/
theorem Named.registered {d : Declaration} (h : d.Named lookup) {written : String}
    {args : List String} (hmem : .sequence (.name written) args ∈ d.elements) :
    ∃ validator, lookup (RuleName.resolve written).1 = some validator := by
  cases h with
  | empty => cases hmem
  | pipe text =>
    simp only [elements] at hmem
    split at hmem
    · cases hmem
    · obtain ⟨token, -, he⟩ := List.mem_map.mp hmem
      cases he
  | list hes => exact hes written args hmem

theorem Named.settled {d : Declaration} (h : d.Named lookup)
    (hknown : ∀ e ∈ d.elements, ∀ written, ¬e.Unknown lookup written) :
    Element.Settled lookup larger d.elements := by
  intro e he r' hr'
  rcases hr' with @⟨text, written, args, _, hreads, -⟩ | @⟨written, args, _, -⟩ |
    ⟨validator, args⟩ | validator
  · cases hl : lookup (RuleName.resolve written).1 with
    | some validator => exact ⟨_, .token hreads hl⟩
    | none => exact absurd ⟨text, args, rfl, hreads, hl⟩ (hknown _ he written)
  · obtain ⟨validator, hl⟩ := h.registered he
    exact ⟨_, .named hl⟩
  · exact ⟨_, .given validator args⟩
  · exact ⟨_, .callable validator⟩

/-- **A larger vocabulary keeps what has compiled**, the rules in their order. If the
declaration drops nothing for its name then it adds no rule to them. -/
theorem rules_of_keeps (lookup larger : String → Option Validator) (hkeeps : Keeps lookup larger)
    (d : Declaration) (rules : List Rule) (h : d.rules lookup = .ok rules) :
    ∃ rules', d.rules larger = .ok rules' ∧
      (∃ kept, List.Forall₂ Rule.Same rules kept ∧ kept.Sublist rules') ∧
      (d.Named lookup → List.Forall₂ Rule.Same rules rules' ∧
        ∃ groups groups', d.groups lookup = .ok groups ∧ d.groups larger = .ok groups' ∧
          Group.sameAll groups groups' = true) := by
  obtain ⟨hknown, hinOrder⟩ := (Element.rules_eq_ok_iff ..).mp h
  obtain ⟨rules', hinOrder', hsub, hall⟩ := hinOrder.kept hkeeps
  have hrules' : d.rules larger = .ok rules' := by
    refine (Element.rules_eq_ok_iff ..).mpr ⟨?_, hinOrder'⟩
    exact fun e he written hunknown => hknown e he written (hunknown.of_larger hkeeps)
  refine ⟨rules', hrules', List.sublistForall₂_iff.mp hsub, fun hnamed => ?_⟩
  have hsame := hall.mpr (hnamed.settled hknown)
  exact ⟨hsame, Group.ofRules rules, Group.ofRules rules', by rw [groups, h]; rfl,
    by rw [groups, hrules']; rfl, (Group.sameAll_iff ..).mpr (Group.same_ofRules hsame)⟩

theorem exists_rules_of_names {d : Declaration} {names : List String}
    (h : (d.rules lookup).map (List.map Rule.displayName) = .ok names) :
    ∃ rules, d.rules lookup = .ok rules ∧ rules.map Rule.displayName = names := by
  cases hd : d.rules lookup with
  | error problem => rw [hd] at h; cases h
  | ok rules => rw [hd] at h; exact ⟨rules, rfl, Except.ok.inj h⟩

/-- The list has a sequence that comes to declare a rule, between the two that there were.
The text has none. -/
theorem rules_of_keeps_between :
    let rule := fun name => (⟨name, ⟨.supplied name, fun _ _ => true⟩, .custom, ""⟩ : RegisteredRule)
    let r := Registry.empty.register (rule "a")
    let larger := (r.register (rule "b")).lookup
    let d := list [.token "a", .sequence (.name "^b") ["1"], .token "a:2"]
    (∃ rules rules' kept, d.rules r.lookup = .ok rules ∧ d.rules larger = .ok rules' ∧
      rules.map Rule.displayName = ["a", "a"] ∧ rules'.map Rule.displayName = ["a", "b", "a"] ∧
      List.Forall₂ Rule.Same rules kept ∧ kept.Sublist rules') ∧
    ∃ rules rules', (pipe "a|^a:1|a").rules r.lookup = .ok rules ∧
      (pipe "a|^a:1|a").rules larger = .ok rules' ∧
      rules.map Rule.displayName = ["a", "a", "a"] ∧ List.Forall₂ Rule.Same rules rules' := by
  intro rule r larger d
  have hkeeps : Keeps r.lookup larger := Registry.keeps_register (by decide +kernel)
  refine ⟨?list, ?text⟩
  case list =>
    have hnames' : (d.rules larger).map (List.map Rule.displayName) = .ok ["a", "b", "a"] := by
      decide +kernel
    obtain ⟨rules, h, hnames⟩ : ∃ rules, d.rules r.lookup = .ok rules ∧
        rules.map Rule.displayName = ["a", "a"] := exists_rules_of_names (by decide +kernel)
    obtain ⟨rules', h', ⟨kept, hsame, hsub⟩, -⟩ := rules_of_keeps r.lookup larger hkeeps d rules h
    rw [h'] at hnames'
    exact ⟨rules, rules', kept, h, h', hnames, Except.ok.inj hnames', hsame, hsub⟩
  case text =>
    obtain ⟨rules, h, hnames⟩ : ∃ rules, (pipe "a|^a:1|a").rules r.lookup = .ok rules ∧
        rules.map Rule.displayName = ["a", "a", "a"] := exists_rules_of_names (by decide +kernel)
    obtain ⟨rules', h', -, hall⟩ := rules_of_keeps r.lookup larger hkeeps _ rules h
    exact ⟨rules, rules', h, h', hnames, (hall (.pipe _)).1⟩

end Declaration
end FieldRules
