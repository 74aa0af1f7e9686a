import FieldRules.Config
import FieldRules.Proofs.CamelCase
import FieldRules.Proofs.Registered
import Mathlib.Data.List.Nodup

/-! The registry of a configuration.

A configuration that is accepted has been looked at: its custom rules have names, one
each, and patterns that can be read (`Config.Accepted`). But it was looked at as written,
and rules are registered in camel case, where two spellings may be one name and a custom
rule may meet a built-in one.

`Config.registry_of_ofText`: that is all that can go wrong. Otherwise the registry holds
the built-in rules that no toggle switches off, as they are, and the custom rules, and
the order of the toggles does not count. -/
namespace FieldRules.Config
open Registry (SwitchedOff)

/-! ### What is accepted -/

/-- What an accepted configuration keeps to. -/
structure Accepted (c : Config) : Prop where
  ascending : Dict.Ascending c.custom
  named : ∀ entry ∈ c.custom, entry.1 ≠ ""
  readable : ∀ entry ∈ c.custom, ∃ pattern, Pattern.ofText? entry.2.pattern = some pattern

theorem ascending_of_section {α : Type} {read : Toml → Option α} {v : Option Toml}
    {entries : Dict α} (h : section? read v = some entries) : Dict.Ascending entries := by
  cases v with
  | none =>
    cases h
    exact .nil
  | some v =>
    simp only [section?, bind, Option.bind_eq_some_iff] at h
    obtain ⟨_, -, _, -, heq⟩ := h
    cases heq
    exact Dict.ascending_ofList _

theorem ascending_of_rules {v : Option Toml} {toggles : Dict Bool} {custom : Dict CustomRule}
    (h : rules? v = some (toggles, custom)) : Dict.Ascending custom := by
  cases v with
  | none =>
    cases h
    exact .nil
  | some v =>
    simp only [rules?, bind, Option.bind_eq_some_iff] at h
    obtain ⟨_, -, _, -, _, hcustom, heq⟩ := h
    cases heq
    exact ascending_of_section hcustom

theorem ascending_of_ofToml {v : Toml} {c : Config} (h : ofToml? v = some c) :
    Dict.Ascending c.custom := by
  simp only [ofToml?, bind, Option.bind_eq_some_iff] at h
  obtain ⟨_, -, _, -, _, -, ⟨toggles, custom⟩, hrules, _, -, _, -, heq⟩ := h
  cases heq
  exact ascending_of_rules hrules

theorem customRuleError?_eq_none {entry : String × CustomRule}
    (h : customRuleError? entry = none) :
    entry.1 ≠ "" ∧ ∃ pattern, Pattern.ofText? entry.2.pattern = some pattern := by
  unfold customRuleError? at h
  split at h
  · cases h
  · split at h
    · cases h
    · rename_i hname hpattern
      exact ⟨by simpa using hname, Option.ne_none_iff_exists'.mp (by simpa using hpattern)⟩

theorem customRuleError?_of_error? {c : Config} (h : c.error? = none) :
    ∀ entry ∈ c.custom, customRuleError? entry = none := by
  unfold error? at h
  split at h
  · cases h
  · split at h
    · cases h
    · exact List.findSome?_eq_none_iff.mp (by assumption)

theorem exists_toml_of_ofText {text : String} {c : Config} (h : ofText text = .ok c) :
    ∃ v, ofToml? v = some c ∧ c.error? = none := by
  unfold ofText at h
  split at h
  · cases h
  · rename_i hread
    split at h
    · cases h
    · rename_i herror
      cases h
      obtain ⟨v, -, hv⟩ := Option.bind_eq_some_iff.mp hread
      exact ⟨v, hv, herror⟩

theorem accepted_of_ofText {text : String} {c : Config} (h : ofText text = .ok c) :
    c.Accepted := by
  obtain ⟨v, hv, herror⟩ := exists_toml_of_ofText h
  have hrules := customRuleError?_of_error? herror
  exact ⟨ascending_of_ofToml hv,
    fun entry hentry => (customRuleError?_eq_none (hrules entry hentry)).1,
    fun entry hentry => (customRuleError?_eq_none (hrules entry hentry)).2⟩

/-! ### What is registered -/

/-- A built-in rule that no toggle switches off. -/
def Keeps (c : Config) (b : Builtin) : Prop :=
  b ∈ Builtin.all ∧ ¬SwitchedOff c.toggles b.name

/-- In camel case the name of a custom rule is that of a built-in one that is kept, or of
another custom rule. -/
def Clashes (c : Config) : Prop :=
  (∃ entry ∈ c.custom, ∃ b, c.Keeps b ∧ RuleName.camelize entry.1 = b.name) ∨
    ∃ entry ∈ c.custom, ∃ other ∈ c.custom, entry.1 ≠ other.1 ∧
      RuleName.camelize entry.1 = RuleName.camelize other.1

/-- A rule that holds of what a pattern matches, under a name in camel case. -/
def Defines (entry : String × CustomRule) (rule : RegisteredRule) : Prop :=
  ∃ pattern, Pattern.ofText? entry.2.pattern = some pattern ∧
    rule = ⟨RuleName.camelize entry.1,
      ⟨.configured (RuleName.camelize entry.1) entry.2.pattern,
        fun v _ => Builtin.hasMatch pattern v⟩,
      .custom, entry.2.description.getD ("Value matches /" ++ entry.2.pattern ++ "/")⟩

theorem defines_unique {entry : String × CustomRule} {a b : RegisteredRule}
    (ha : Defines entry a) (hb : Defines entry b) : a = b := by
  obtain ⟨pattern, hpattern, rfl⟩ := ha
  obtain ⟨other, hother, rfl⟩ := hb
  cases hpattern.symm.trans hother
  rfl

variable {c : Config}

/-- A definition with a name and a pattern has its rule. -/
theorem customRule?_of_readable {entry : String × CustomRule} {pattern : Pattern}
    (hname : RuleName.camelize entry.1 ≠ "")
    (hpattern : Pattern.ofText? entry.2.pattern = some pattern) :
    ∃ rule, Registry.customRule? entry = some rule ∧ Defines entry rule := by
  have hread : PatternRule.ofDefinition (RuleName.camelize entry.1) entry.2 =
      .ok ⟨RuleName.camelize entry.1,
        entry.2.description.getD ("Value matches /" ++ entry.2.pattern ++ "/"),
        entry.2.pattern, pattern⟩ := by
    rw [PatternRule.ofDefinition, if_neg (by simpa using hname), hpattern]
  exact ⟨_, (Registry.customRule?_eq_some_iff ..).mpr ⟨_, hread, rfl⟩, pattern, hpattern, rfl⟩

theorem customRule?_of_accepted (h : c.Accepted) {entry : String × CustomRule}
    (hentry : entry ∈ c.custom) :
    ∃ rule, Registry.customRule? entry = some rule ∧ Defines entry rule := by
  obtain ⟨pattern, hpattern⟩ := h.readable entry hentry
  have hname : RuleName.camelize entry.1 ≠ "" := fun he =>
    h.named entry hentry ((RuleName.camelize_eq_empty_iff entry.1).mp he)
  exact customRule?_of_readable hname hpattern

theorem customRule?_isSome (h : c.Accepted) :
    ∀ entry ∈ c.custom, ∃ rule, Registry.customRule? entry = some rule := by
  intro entry hentry
  obtain ⟨rule, hrule, -⟩ := customRule?_of_accepted h hentry
  exact ⟨rule, hrule⟩

theorem contains_kept (name : String) :
    (Registry.builtins.disable c.toggles).contains name = true ↔
      ∃ b, c.Keeps b ∧ b.name = name := by
  rw [Registry.contains_eq, Option.isSome_iff_exists]
  simp only [Registry.get?_disable, Registry.get?_builtins]
  constructor
  · rintro ⟨rule, ⟨b, hb, rfl, -⟩, hon⟩
    exact ⟨b, ⟨hb, hon⟩, rfl⟩
  · rintro ⟨b, ⟨hb, hon⟩, rfl⟩
    exact ⟨_, ⟨b, hb, rfl, rfl⟩, hon⟩

theorem fresh_iff (h : c.Accepted) :
    Registry.Fresh (Registry.builtins.disable c.toggles) c.custom ↔ ¬c.Clashes := by
  rw [Registry.Fresh, List.nodup_map_iff_inj_on (Dict.nodup_of_ascending h.ascending)]
  constructor
  · rintro ⟨hnew, hinj⟩ (⟨entry, hentry, b, hb, hname⟩ |
      ⟨entry, hentry, other, hother, hne, hsame⟩)
    · have htaken := (contains_kept b.name).mpr ⟨b, hb, rfl⟩
      rw [← hname, hnew entry hentry] at htaken
      cases htaken
    · exact hne (congrArg Prod.fst (hinj entry hentry other hother hsame))
  · intro hclash
    refine ⟨fun entry hentry => ?_, fun entry hentry other hother hsame => ?_⟩
    · refine Bool.eq_false_iff.mpr fun htaken => hclash (.inl ?_)
      obtain ⟨b, hb, hname⟩ := (contains_kept _).mp htaken
      exact ⟨entry, hentry, b, hb, hname.symm⟩
    · have hkeys := Dict.nodup_keys_of_ascending h.ascending
      by_contra hne
      exact hclash (.inr ⟨entry, hentry, other, hother,
        fun he => hne (List.inj_on_of_nodup_map hkeys hentry hother he), hsame⟩)

theorem customRule?_defines (h : c.Accepted) {entry : String × CustomRule}
    (hentry : entry ∈ c.custom) {rule : RegisteredRule}
    (hrule : Registry.customRule? entry = some rule) : Defines entry rule := by
  obtain ⟨other, hother, hdefines⟩ := customRule?_of_accepted h hentry
  cases hother.symm.trans hrule
  exact hdefines

theorem registry_eq (c : Config) :
    c.registry = match ((Registry.builtins.disable c.toggles).load c.custom).2 with
      | none => .ok ((Registry.builtins.disable c.toggles).load c.custom).1
      | some problem => .error problem := by
  unfold registry Registry.configured
  split <;> simp only [*]

theorem duplicateName_ne_emptyName (name : String) :
    RuleError.duplicateName name ≠ .emptyName := by
  intro h
  have htext := RuleError.invalidDefinition.inj h
  simpa using congrArg (List.head? ∘ String.toList) htext

theorem registry_of_clashes (h : c.Accepted) (hclash : c.Clashes) :
    ∃ entry ∈ c.custom, c.registry = .error (.duplicateName (RuleName.camelize entry.1)) := by
  obtain ⟨entry, hentry, hload⟩ :=
    Registry.load_of_not_fresh (customRule?_isSome h) fun hfresh => (fresh_iff h).mp hfresh hclash
  exact ⟨entry, hentry, by rw [registry_eq, hload]⟩

/-- What the registry of a configuration holds: the built-in rules that are kept, as they
are, and the custom rules, and nothing else. -/
structure Registers (c : Config) (r : Registry) : Prop where
  mem_names_iff : ∀ name, name ∈ r.names ↔ (∃ b, c.Keeps b ∧ b.name = name) ∨
    ∃ entry ∈ c.custom, RuleName.camelize entry.1 = name
  kept : ∀ b, c.Keeps b → r.get? b.name = some ⟨b.name, b.validator, .builtin, b.description⟩
  custom : ∀ entry ∈ c.custom, ∃ rule,
    r.get? (RuleName.camelize entry.1) = some rule ∧ Defines entry rule

theorem get?_loaded_iff (h : c.Accepted) (hclash : ¬c.Clashes) (name : String)
    (rule : RegisteredRule) :
    ((Registry.builtins.disable c.toggles).load c.custom).1.get? name = some rule ↔
      (∃ b, c.Keeps b ∧ b.name = name ∧ rule = .ofBuiltin b) ∨
        ∃ entry ∈ c.custom, RuleName.camelize entry.1 = name ∧ Defines entry rule := by
  rw [Registry.get?_load (customRule?_isSome h) ((fresh_iff h).mpr hclash),
    Registry.get?_disable, Registry.get?_builtins, or_comm]
  refine or_congr ⟨?_, ?_⟩ ⟨?_, ?_⟩
  · rintro ⟨⟨b, hb, rfl, hrule⟩, hon⟩
    exact ⟨b, ⟨hb, hon⟩, rfl, hrule⟩
  · rintro ⟨b, ⟨hb, hon⟩, rfl, hrule⟩
    exact ⟨⟨b, hb, rfl, hrule⟩, hon⟩
  · rintro ⟨entry, hentry, hrule, rfl⟩
    exact ⟨entry, hentry, (Registry.name_of_customRule? hrule).symm,
      customRule?_defines h hentry hrule⟩
  · rintro ⟨entry, hentry, rfl, hdefines⟩
    obtain ⟨other, hother, hsame⟩ := customRule?_of_accepted h hentry
    cases defines_unique hsame hdefines
    exact ⟨entry, hentry, hother, Registry.name_of_customRule? hother⟩

theorem registers_loaded (h : c.Accepted) (hclash : ¬c.Clashes) :
    c.Registers ((Registry.builtins.disable c.toggles).load c.custom).1 := by
  have hget := get?_loaded_iff h hclash
  refine ⟨fun name => ⟨fun hmem => ?_, fun hmem => ?_⟩, fun b hb => ?_, fun entry hentry => ?_⟩
  · obtain ⟨rule, hrule⟩ := (Registry.mem_names_iff ..).mp hmem
    obtain ⟨b, hb, hname, -⟩ | ⟨entry, hentry, hname, -⟩ := (hget ..).mp hrule
    · exact .inl ⟨b, hb, hname⟩
    · exact .inr ⟨entry, hentry, hname⟩
  · refine (Registry.mem_names_iff ..).mpr ?_
    obtain ⟨b, hb, hname⟩ | ⟨entry, hentry, hname⟩ := hmem
    · exact ⟨_, (hget ..).mpr (.inl ⟨b, hb, hname, rfl⟩)⟩
    · obtain ⟨rule, -, hdefines⟩ := customRule?_of_accepted h hentry
      exact ⟨rule, (hget ..).mpr (.inr ⟨entry, hentry, hname, hdefines⟩)⟩
  · exact (hget ..).mpr (.inl ⟨b, hb, rfl, rfl⟩)
  · obtain ⟨rule, -, hdefines⟩ := customRule?_of_accepted h hentry
    exact ⟨rule, (hget ..).mpr (.inr ⟨entry, hentry, rfl, hdefines⟩), hdefines⟩

theorem registry_of_not_clashes (h : c.Accepted) (hclash : ¬c.Clashes) :
    ∃ r, c.registry = .ok r ∧ c.Registers r := by
  have hload : ((Registry.builtins.disable c.toggles).load c.custom).2 = none := by
    rw [Registry.load_of_fresh (customRule?_isSome h) ((fresh_iff h).mpr hclash)]
  exact ⟨_, by rw [registry_eq, hload], registers_loaded h hclash⟩

/-- **The registry of an accepted configuration.** It cannot be made exactly if names clash,
and that is what the error says. Otherwise it holds what it should and nothing else. Toggles
that switch nothing off do not count, nor does the order of those that do. -/
theorem registry_of_ofText {text : String} {c : Config} (h : ofText text = .ok c) :
    ((∃ problem, c.registry = .error problem) ↔ c.Clashes) ∧
    (∀ problem, c.registry = .error problem → ∃ entry ∈ c.custom,
      problem = .invalidDefinition
        ("Duplicate rule name '" ++ RuleName.camelize entry.1 ++ "' in [rules.custom]") ∧
      problem ≠ .emptyName) ∧
    (¬c.Clashes → ∃ r, c.registry = .ok r ∧ c.Registers r) ∧
    ∀ toggles : Dict Bool,
      (∀ written, (written, false) ∈ toggles ↔ (written, false) ∈ c.toggles) →
      Registry.configured toggles c.custom = c.registry := by
  have haccepted := accepted_of_ofText h
  have hmade := registry_of_not_clashes haccepted
  refine ⟨⟨?_, ?_⟩, ?_, hmade, fun toggles htoggles => ?_⟩
  · rintro ⟨problem, herror⟩
    by_contra hclash
    obtain ⟨r, hok, -⟩ := hmade hclash
    cases herror.symm.trans hok
  · intro hclash
    obtain ⟨entry, -, herror⟩ := registry_of_clashes haccepted hclash
    exact ⟨_, herror⟩
  · intro problem herror
    by_cases hclash : c.Clashes
    · obtain ⟨entry, hentry, hduplicate⟩ := registry_of_clashes haccepted hclash
      cases herror.symm.trans hduplicate
      exact ⟨entry, hentry, rfl, duplicateName_ne_emptyName _⟩
    · obtain ⟨r, hok, -⟩ := hmade hclash
      cases herror.symm.trans hok
  · rw [registry, Registry.configured, Registry.configured, Registry.disable_congr _ htoggles]

theorem ofText_of_check (text : String) (p : Config → Prop) [DecidablePred p]
    (h : (match ofText text with | .ok c => decide (p c) | .error _ => false) = true) :
    ∃ c, ofText text = .ok c ∧ p c := by
  cases hc : ofText text with
  | error e =>
    rw [hc] at h
    cases h
  | ok c =>
    rw [hc] at h
    exact ⟨c, rfl, of_decide_eq_true h⟩

/-- A configuration with a rule in the place of one that it switches off, under another
spelling, and one that forgets to switch it off. -/
theorem registry_of_ofText_replaced :
    (∃ c, ofText "ruleplan = [\"1\"]\n[rules]\nnotIn = false\n[rules.custom]\nnot_in = [\"a\"]\n" =
        .ok c ∧
      Registry.configured [("email", true), ("notIn", false)] c.custom = c.registry ∧
      ∃ r rule, c.registry = .ok r ∧
        r.get? "in" = some
          ⟨"in", ⟨.builtin "in", Builtin.isIn⟩, .builtin, "Value is one of the arguments"⟩ ∧
        r.get? "notIn" = some rule ∧ Defines ("not_in", ⟨"a", none⟩) rule) ∧
    ∃ c, ofText "ruleplan = [\"1\"]\n[rules.custom]\nnot_in = [\"a\"]\n" = .ok c ∧
      c.registry =
        .error (.invalidDefinition "Duplicate rule name 'notIn' in [rules.custom]") := by
  have hname : RuleName.camelize "not_in" = "notIn" := by decide +kernel
  have hoff : RuleName.camelize "notIn" = "notIn" := by decide +kernel
  refine ⟨?replaced, ?forgotten⟩
  case replaced =>
    obtain ⟨c, htext, htoggles, hcustom⟩ := ofText_of_check
      "ruleplan = [\"1\"]\n[rules]\nnotIn = false\n[rules.custom]\nnot_in = [\"a\"]\n"
      (fun c => c.toggles = [("notIn", false)] ∧ c.custom = [("not_in", ⟨"a", none⟩)])
      (by decide +kernel)
    have hswitched : ∀ name, SwitchedOff c.toggles name → name = "notIn" := by
      rintro name ⟨written, hmem, rfl⟩
      rw [htoggles, List.mem_singleton] at hmem
      cases hmem
      exact hoff
    have hapart : ¬c.Clashes := by
      rintro (⟨entry, hentry, b, ⟨-, hon⟩, hsame⟩ | ⟨entry, hentry, other, hother, hne, -⟩)
      · rw [hcustom, List.mem_singleton] at hentry
        subst hentry
        exact hon ⟨"notIn", by rw [htoggles]; exact List.mem_singleton_self _,
          hoff.trans (hname.symm.trans hsame)⟩
      · rw [hcustom, List.mem_singleton] at hentry hother
        exact hne (by rw [hentry, hother])
    obtain ⟨-, -, hmade, hcongr⟩ := registry_of_ofText htext
    obtain ⟨r, hok, -, hkept, hcustoms⟩ := hmade hapart
    obtain ⟨rule, hrule, hdefines⟩ :=
      hcustoms ("not_in", ⟨"a", none⟩) (by rw [hcustom]; exact List.mem_singleton_self _)
    rw [hname] at hrule
    refine ⟨c, htext, hcongr _ fun written => by simp [htoggles], r, rule, hok, ?_, hrule,
      hdefines⟩
    exact hkept ⟨"in", "Value is one of the arguments", Builtin.isIn⟩
      ⟨by simp [Builtin.all], fun h => absurd (hswitched _ h) (by decide)⟩
  case forgotten =>
    obtain ⟨c, htext, htoggles, hcustom⟩ := ofText_of_check
      "ruleplan = [\"1\"]\n[rules.custom]\nnot_in = [\"a\"]\n"
      (fun c => c.toggles = [] ∧ c.custom = [("not_in", ⟨"a", none⟩)]) (by decide +kernel)
    have hclash : c.Clashes := by
      refine .inl ⟨("not_in", ⟨"a", none⟩), by rw [hcustom]; exact List.mem_singleton_self _,
        ⟨"notIn", "Value is none of the arguments", Builtin.notIn⟩,
        ⟨by simp [Builtin.all], ?_⟩, hname⟩
      rintro ⟨written, hmem, -⟩
      rw [htoggles] at hmem
      cases hmem
    obtain ⟨hfails, hproblem, -, -⟩ := registry_of_ofText htext
    obtain ⟨problem, herror⟩ := hfails.mpr hclash
    obtain ⟨entry, hentry, rfl, -⟩ := hproblem problem herror
    rw [hcustom, List.mem_singleton] at hentry
    exact ⟨c, htext, herror.trans (by rw [hentry, hname]; rfl)⟩

end FieldRules.Config
