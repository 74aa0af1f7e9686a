import FieldRules.Proofs.Ascending
import FieldRules.Rule.Registry
import Mathlib.Logic.Basic

/-! What is registered, and under which name.

A registry is seen through its look-up, and each operation is one equation about that:
registering answers for its own name (`Registry.get?_register`), switching off takes
away the names that toggles name (`Registry.get?_disable`), and which toggles come first
does not count (`Registry.disable_congr`).

Custom rules are loaded one after the other. If each of them can be read, nothing but a
name that is taken stops them (`Registry.load_eq_none_iff`), and then all are there
beside what was there before (`Registry.get?_load`). -/
namespace FieldRules

namespace RegisteredRule

def ofBuiltin (b : Builtin) : RegisteredRule := ⟨b.name, b.validator, .builtin, b.description⟩

def ofPattern (rule : PatternRule) : RegisteredRule :=
  ⟨rule.name, rule.validator, .custom, rule.description⟩

end RegisteredRule

namespace Registry

/-! ### Registering -/

theorem get?_register (r : Registry) (rule : RegisteredRule) (name : String) :
    (r.register rule).get? name = if rule.name = name then some rule else r.get? name := by
  by_cases h : rule.name = name
  · subst h
    rw [if_pos rfl]
    exact Dict.get?_put_self ..
  · rw [if_neg h]
    exact Dict.get?_put_of_ne _ h _

theorem contains_eq (r : Registry) (name : String) : r.contains name = (r.get? name).isSome := rfl

theorem contains_register (r : Registry) (rule : RegisteredRule) (name : String) :
    (r.register rule).contains name = (decide (rule.name = name) || r.contains name) := by
  rw [contains_eq, get?_register]
  by_cases h : rule.name = name
  · simp [h]
  · simp [h, contains_eq]

/-- Under a new name there is one rule more. -/
theorem size_register {r : Registry} {rule : RegisteredRule} (h : r.contains rule.name = false) :
    (r.register rule).size = r.size + 1 := by
  have hplace : Dict.put r.rules rule.name rule = Dict.place r.rules rule.name rule :=
    if_neg (by rw [← contains, h]; decide)
  rw [size, register, hplace, (Dict.perm_place ..).length_eq]
  rfl

theorem mem_names_iff (r : Registry) (name : String) :
    name ∈ r.names ↔ ∃ rule, r.get? name = some rule := by
  constructor
  · intro hmem
    obtain ⟨⟨key, rule⟩, hentry, rfl⟩ := List.mem_map.mp hmem
    exact Option.isSome_iff_exists.mp (Dict.isSome_get?_of_mem hentry)
  · rintro ⟨rule, hrule⟩
    exact List.mem_map.mpr ⟨_, Dict.mem_of_get?_eq_some hrule, rfl⟩

/-! ### Rules one after the other -/

def registerAll (r : Registry) (rules : List RegisteredRule) : Registry := rules.foldl register r

/-- Under names of their own all are there, and of what was there before the rest. -/
theorem get?_registerAll {rules : List RegisteredRule} (h : (rules.map RegisteredRule.name).Nodup)
    (r : Registry) (name : String) (rule : RegisteredRule) :
    (r.registerAll rules).get? name = some rule ↔
      (rule ∈ rules ∧ rule.name = name) ∨
        name ∉ rules.map RegisteredRule.name ∧ r.get? name = some rule := by
  induction rules generalizing r with
  | nil => simp [registerAll]
  | cons first rest ih =>
    obtain ⟨hfirst, hrest⟩ := List.nodup_cons.mp h
    have hstep : (r.registerAll (first :: rest)).get? name = some rule ↔ _ :=
      ih hrest (r.register first)
    rw [hstep, get?_register, List.map_cons, List.mem_cons, List.mem_cons]
    by_cases hname : first.name = name
    · subst hname
      rw [if_pos rfl]
      constructor
      · rintro (⟨hmem, hsame⟩ | ⟨-, heq⟩)
        · exact .inl ⟨.inr hmem, hsame⟩
        · exact .inl ⟨.inl (Option.some.inj heq).symm, by rw [Option.some.inj heq]⟩
      · rintro (⟨rfl | hmem, hsame⟩ | ⟨hnot, -⟩)
        · exact .inr ⟨hfirst, rfl⟩
        · exact .inl ⟨hmem, hsame⟩
        · exact absurd (.inl rfl) hnot
    · rw [if_neg hname]
      constructor
      · rintro (⟨hmem, hsame⟩ | ⟨hnot, hold⟩)
        · exact .inl ⟨.inr hmem, hsame⟩
        · exact .inr ⟨fun h => h.elim (fun he => hname he.symm) hnot, hold⟩
      · rintro (⟨rfl | hmem, hsame⟩ | ⟨hnot, hold⟩)
        · exact absurd hsame hname
        · exact .inl ⟨hmem, hsame⟩
        · exact .inr ⟨fun h => hnot (.inr h), hold⟩

theorem builtins_eq : builtins = empty.registerAll (Builtin.all.map .ofBuiltin) :=
  List.foldl_map.symm

theorem get?_builtins (name : String) (rule : RegisteredRule) :
    builtins.get? name = some rule ↔ ∃ b ∈ Builtin.all, b.name = name ∧ rule = .ofBuiltin b := by
  have hnodup : ((Builtin.all.map RegisteredRule.ofBuiltin).map RegisteredRule.name).Nodup := by
    decide
  have hempty : ¬empty.get? name = some rule := fun h => nomatch h
  rw [builtins_eq, get?_registerAll hnodup, List.mem_map]
  constructor
  · rintro (⟨⟨b, hb, rfl⟩, hname⟩ | ⟨-, hold⟩)
    · exact ⟨b, hb, hname, rfl⟩
    · exact absurd hold hempty
  · rintro ⟨b, hb, hname, rfl⟩
    exact .inl ⟨⟨b, hb, rfl⟩, hname⟩

/-! ### Switching off -/

/-- A toggle names the rule, however it spells the name, and switches it off. -/
def SwitchedOff (toggles : Dict Bool) (name : String) : Prop :=
  ∃ written, (written, false) ∈ toggles ∧ RuleName.camelize written = name

theorem rules_disable (r : Registry) (toggles : Dict Bool) :
    (r.disable toggles).rules = r.rules.filter fun entry =>
      !toggles.any fun toggle => !toggle.2 && RuleName.camelize toggle.1 = entry.1 := by
  induction toggles generalizing r with
  | nil => exact (List.filter_eq_self.mpr fun _ _ => rfl).symm
  | cons toggle toggles ih =>
    obtain ⟨written, enabled⟩ := toggle
    have hstep : r.disable ((written, enabled) :: toggles) =
        (if enabled then r else r.remove (RuleName.camelize written)).disable toggles := rfl
    rw [hstep, ih]
    cases enabled with
    | true => simp
    | false => simp [remove, Dict.erase, List.filter_filter, eq_comm, Bool.and_comm]

theorem switchedOff_iff (toggles : Dict Bool) (name : String) :
    (toggles.any fun toggle => !toggle.2 && RuleName.camelize toggle.1 = name) = true ↔
      SwitchedOff toggles name := by
  simp [SwitchedOff]

theorem get?_disable (r : Registry) (toggles : Dict Bool) (name : String) (rule : RegisteredRule) :
    (r.disable toggles).get? name = some rule ↔
      r.get? name = some rule ∧ ¬SwitchedOff toggles name := by
  rw [get?, rules_disable, ← switchedOff_iff, Dict.get?_filter (fun key =>
    !toggles.any fun toggle => !toggle.2 && RuleName.camelize toggle.1 = key)]
  rw [Option.ite_none_right_eq_some, Bool.not_eq_true', Bool.not_eq_true, and_comm]
  rfl

/-- Toggles that switch off the same do the same. -/
theorem disable_congr (r : Registry) {a b : Dict Bool}
    (h : ∀ written, (written, false) ∈ a ↔ (written, false) ∈ b) : r.disable a = r.disable b := by
  have hany : ∀ name, SwitchedOff a name ↔ SwitchedOff b name := fun name => by
    simp only [SwitchedOff, h]
  have hrules : (r.disable a).rules = (r.disable b).rules := by
    rw [rules_disable, rules_disable]
    refine List.filter_congr fun entry _ => congrArg (!·) ?_
    rw [Bool.eq_iff_iff, switchedOff_iff, switchedOff_iff, hany]
  exact congrArg Registry.mk hrules

/-! ### Custom rules -/

/-- The rule of a definition under a written name, if it can be read. -/
def customRule? (entry : String × CustomRule) : Option RegisteredRule :=
  match PatternRule.ofDefinition (RuleName.camelize entry.1) entry.2 with
  | .error _ => none
  | .ok rule => some (.ofPattern rule)

theorem customRule?_eq_some_iff (entry : String × CustomRule) (rule : RegisteredRule) :
    customRule? entry = some rule ↔
      ∃ read, PatternRule.ofDefinition (RuleName.camelize entry.1) entry.2 = .ok read ∧
        rule = .ofPattern read := by
  unfold customRule?
  cases PatternRule.ofDefinition (RuleName.camelize entry.1) entry.2 <;> simp [eq_comm]

theorem name_of_ofDefinition {name : String} {definition : CustomRule} {rule : PatternRule}
    (h : PatternRule.ofDefinition name definition = .ok rule) : rule.name = name := by
  unfold PatternRule.ofDefinition at h
  split at h
  · cases h
  · split at h
    · cases h
    · cases h
      rfl

theorem name_of_customRule? {entry : String × CustomRule} {rule : RegisteredRule}
    (h : customRule? entry = some rule) : rule.name = RuleName.camelize entry.1 := by
  obtain ⟨read, hread, rfl⟩ := (customRule?_eq_some_iff ..).mp h
  exact name_of_ofDefinition hread

/-- A rule that can be read is defined, unless its name is taken. -/
theorem define_of_customRule? {entry : String × CustomRule} {rule : RegisteredRule}
    (h : customRule? entry = some rule) (r : Registry) :
    r.define entry.1 entry.2 =
      if r.contains (RuleName.camelize entry.1) then
        .error (.duplicateName (RuleName.camelize entry.1))
      else .ok (r.register rule) := by
  obtain ⟨read, hread, rfl⟩ := (customRule?_eq_some_iff ..).mp h
  have hname := name_of_ofDefinition hread
  unfold define
  rw [hread, ← hname]
  rfl

/-- No name is taken, and none is given twice. -/
def Fresh (r : Registry) (custom : Dict CustomRule) : Prop :=
  (∀ entry ∈ custom, r.contains (RuleName.camelize entry.1) = false) ∧
    (custom.map fun entry => RuleName.camelize entry.1).Nodup

theorem fresh_cons {entry : String × CustomRule} {rule : RegisteredRule}
    (h : customRule? entry = some rule) (r : Registry) (custom : Dict CustomRule) :
    Fresh r (entry :: custom) ↔
      r.contains (RuleName.camelize entry.1) = false ∧ Fresh (r.register rule) custom := by
  have hname := name_of_customRule? h
  simp only [Fresh, List.forall_mem_cons, List.map_cons, List.nodup_cons, List.mem_map,
    contains_register, Bool.or_eq_false_iff, decide_eq_false_iff_not, hname]
  constructor
  · rintro ⟨⟨hnew, hothers⟩, hnot, hnodup⟩
    exact ⟨hnew, fun other hother => ⟨fun he => hnot ⟨other, hother, he.symm⟩,
      hothers other hother⟩, hnodup⟩
  · rintro ⟨hnew, hothers, hnodup⟩
    exact ⟨⟨hnew, fun other hother => (hothers other hother).2⟩,
      fun ⟨other, hother, he⟩ => (hothers other hother).1 he.symm, hnodup⟩

section
variable {custom : Dict CustomRule} (h : ∀ entry ∈ custom, ∃ rule, customRule? entry = some rule)
  {r : Registry}
include h

theorem load_of_fresh (hfresh : Fresh r custom) :
    r.load custom = (r.registerAll (custom.filterMap customRule?), none) := by
  induction custom generalizing r with
  | nil => rfl
  | cons entry rest ih =>
    obtain ⟨⟨rule, hrule⟩, hrest⟩ := List.forall_mem_cons.mp h
    obtain ⟨hnew, hfresh⟩ := (fresh_cons hrule r rest).mp hfresh
    rw [load, define_of_customRule? hrule, hnew, List.filterMap_cons_some hrule]
    exact ih hrest hfresh

theorem map_name_customRules : (custom.filterMap customRule?).map RegisteredRule.name =
    custom.map fun entry => RuleName.camelize entry.1 := by
  induction custom with
  | nil => rfl
  | cons entry rest ih =>
    obtain ⟨⟨rule, hrule⟩, hrest⟩ := List.forall_mem_cons.mp h
    rw [List.filterMap_cons_some hrule, List.map_cons, List.map_cons, ih hrest,
      name_of_customRule? hrule]

theorem load_of_not_fresh (hfresh : ¬Fresh r custom) :
    ∃ entry ∈ custom, (r.load custom).2 = some (.duplicateName (RuleName.camelize entry.1)) := by
  induction custom generalizing r with
  | nil => exact absurd ⟨List.forall_mem_nil _, .nil⟩ hfresh
  | cons entry rest ih =>
    obtain ⟨⟨rule, hrule⟩, hrest⟩ := List.forall_mem_cons.mp h
    rw [load, define_of_customRule? hrule]
    cases hc : r.contains (RuleName.camelize entry.1) with
    | true => exact ⟨entry, List.mem_cons_self .., rfl⟩
    | false =>
      have hlater : ¬Fresh (r.register rule) rest := fun hf =>
        hfresh ((fresh_cons hrule r rest).mpr ⟨hc, hf⟩)
      obtain ⟨other, hother, hload⟩ := ih hrest hlater
      exact ⟨other, List.mem_cons_of_mem _ hother, hload⟩

/-- After loading, the custom rules are there beside what was there before. -/
theorem get?_load (hfresh : Fresh r custom) (name : String) (rule : RegisteredRule) :
    (r.load custom).1.get? name = some rule ↔
      (∃ entry ∈ custom, customRule? entry = some rule ∧ rule.name = name) ∨
        r.get? name = some rule := by
  have hnames := map_name_customRules h
  rw [load_of_fresh h hfresh, get?_registerAll (hnames ▸ hfresh.2), hnames, List.mem_filterMap]
  constructor
  · rintro (⟨⟨entry, hentry, hrule⟩, hname⟩ | ⟨-, hold⟩)
    · exact .inl ⟨entry, hentry, hrule, hname⟩
    · exact .inr hold
  · rintro (⟨entry, hentry, hrule, hname⟩ | hold)
    · exact .inl ⟨⟨entry, hentry, hrule⟩, hname⟩
    · refine .inr ⟨fun hmem => ?_, hold⟩
      -- A name that was taken before is none of the new ones.
      obtain ⟨entry, hentry, rfl⟩ := List.mem_map.mp hmem
      have hnew := hfresh.1 entry hentry
      rw [contains_eq, hold] at hnew
      cases hnew

end

end Registry
end FieldRules
