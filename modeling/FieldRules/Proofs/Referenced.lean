import FieldRules.Proofs.Configured
import FieldRules.Proofs.Rendered

/-! Custom rules under the names that a configuration gives them.

A name is written twice, where a rule is defined and where a field refers to it, and the
two are read differently: to define a rule makes its name camel case, to refer to it also
takes off a mark. So a name that begins with the mark is registered with it and looked for
without it, and nothing of that form is ever found to be the other
(`RuleName.resolve_ne_camelize`).

`Config.rule?_custom_iff`: a custom rule is referred to by its own name exactly if that
name does not begin with the mark. With one more mark in front every custom rule is
found. -/
namespace FieldRules

/-! ### Names, defined and referred to -/

/-- Without its mark a name is shorter, and so in camel case it is another one. -/
theorem RuleName.resolve_ne_camelize {written : String} (h : written.toList.head? = some '^') :
    (resolve written).1 ≠ camelize written := by
  obtain ⟨rest, hrest⟩ := List.head?_eq_some_iff.mp h
  have hwritten : written = "^" ++ String.ofList rest := String.toList_inj.mp (by simp [hrest])
  have hmark : ∀ (previous : Option Char) (text : List Char),
      camelizeAfter previous ('^' :: text) = '^' :: camelizeAfter (some '^') text :=
    fun _ text => camelizeAfter_cons (.inl (by decide)) text
  intro hsame
  rw [hwritten, resolve_marked] at hsame
  have hchars : camelizeAfter none rest = '^' :: camelizeAfter (some '^') rest := by
    have hlists := congrArg String.toList hsame
    rwa [toList_camelize, toList_camelize, String.toList_ofList, ← hwritten, hrest,
      hmark] at hlists
  -- The rest begins with the mark too, and what follows it would be as long as with it.
  have hhead : rest.head? = some '^' := by
    have hkept := head?_camelize (String.ofList rest)
    rw [toList_camelize, String.toList_ofList, hchars] at hkept
    exact hkept.symm
  obtain ⟨later, hlater⟩ := List.head?_eq_some_iff.mp hhead
  rw [hlater, hmark, hmark] at hchars
  exact absurd (congrArg List.length hchars) (by simp)

theorem Element.name_of_rule?_named {lookup : String → Option Validator} {written : String}
    {args : List String} {rule : Rule}
    (h : (sequence (.name written) args).rule? lookup = .ok (some rule)) :
    rule.name = some (RuleName.resolve written).1 := by
  cases hl : lookup (RuleName.resolve written).1 with
  | none =>
    rw [rule?_named_of_none lookup hl] at h
    cases h
  | some validator =>
    rw [rule?_named_of_some lookup hl] at h
    cases h
    rfl

namespace Config
variable {c : Config} {r : Registry}

theorem registers_of_registry (h : c.Accepted) (hr : c.registry = .ok r) : c.Registers r := by
  by_cases hclash : c.Clashes
  · obtain ⟨entry, -, herror⟩ := registry_of_clashes h hclash
    cases hr.symm.trans herror
  · obtain ⟨made, hmade, hregisters⟩ := registry_of_not_clashes h hclash
    cases hr.symm.trans hmade
    exact hregisters

/-- The only custom rule is in no one's way if its name is new. -/
theorem registers_single {entry : String × CustomRule} (h : c.Accepted)
    (hcustom : c.custom = [entry])
    (hnew : ∀ b ∈ Builtin.all, b.name ≠ RuleName.camelize entry.1) :
    ∃ r, c.registry = .ok r ∧ c.Registers r := by
  refine registry_of_not_clashes h ?_
  rw [Clashes, hcustom]
  rintro (⟨first, hfirst, b, ⟨hb, -⟩, hname⟩ | ⟨first, hfirst, second, hsecond, hne, -⟩)
  · obtain rfl := List.mem_singleton.mp hfirst
    exact hnew b hb hname.symm
  · rw [List.mem_singleton.mp hfirst, List.mem_singleton.mp hsecond] at hne
    exact hne rfl

/-- A sequence whose name resolves to a registered one. -/
theorem rule?_sequence_of_get? {name written : String} {modifier : Modifier}
    {rule : RegisteredRule} (hresolve : RuleName.resolve written = (name, modifier))
    (hrule : r.get? name = some rule) (args : List String) :
    (Element.sequence (.name written) args).rule? r.lookup =
      .ok (some ⟨rule.validator, args, some name, modifier⟩) := by
  have hlookup : r.lookup (RuleName.resolve written).1 = some rule.validator := by
    rw [hresolve, Registry.lookup, hrule, Option.map_some]
  rw [Element.rule?_named_of_some r.lookup hlookup, hresolve]

theorem rule?_token_of_get? {name written text : String} {args : List String}
    {modifier : Modifier} {rule : RegisteredRule}
    (hresolve : RuleName.resolve written = (name, modifier)) (hrule : r.get? name = some rule)
    (hreads : Element.Reads text written args) :
    (Element.token text).rule? r.lookup =
      .ok (some ⟨rule.validator, args, some name, modifier⟩) := by
  have hlookup : r.lookup (RuleName.resolve written).1 = some rule.validator := by
    rw [hresolve, Registry.lookup, hrule, Option.map_some]
  rw [Element.rule?_token_of_some r.lookup hreads hlookup, hresolve]

/-- **Which custom rules are reached by their names.** In an accepted configuration whose
registry can be made, a sequence with the name of a custom rule declares that rule, exactly
if the name does not begin with the mark. Behind a mark of its own every name does. -/
theorem rule?_custom_iff {text : String} {c : Config} {r : Registry} (h : ofText text = .ok c)
    (hr : c.registry = .ok r) :
    ∀ entry ∈ c.custom, ∃ rule, r.get? (RuleName.camelize entry.1) = some rule ∧
      Defines entry rule ∧ ∀ args,
        ((∃ modifier, (Element.sequence (.name entry.1) args).rule? r.lookup =
            .ok (some ⟨rule.validator, args, some (RuleName.camelize entry.1), modifier⟩)) ↔
          entry.1.toList.head? ≠ some '^') ∧
        (Element.sequence (.name ("^" ++ entry.1)) args).rule? r.lookup =
          .ok (some ⟨rule.validator, args, some (RuleName.camelize entry.1), .bailPrefix⟩) := by
  intro entry hentry
  obtain ⟨rule, hrule, hdefines⟩ :=
    (registers_of_registry (accepted_of_ofText h) hr).custom entry hentry
  refine ⟨rule, hrule, hdefines, fun args => ⟨⟨?_, fun hplain => ?_⟩, ?_⟩⟩
  · rintro ⟨modifier, hdeclared⟩ hmark
    have hname := Option.some.inj (Element.name_of_rule?_named hdeclared)
    exact RuleName.resolve_ne_camelize hmark hname.symm
  · exact ⟨.plain, rule?_sequence_of_get? (RuleName.resolve_of_unmarked hplain) hrule args⟩
  · exact rule?_sequence_of_get? (RuleName.resolve_marked entry.1) hrule args

/-- A name that camel case changes, and one that begins with the mark. -/
theorem rule?_custom_iff_marked :
    (∃ c r rule modifier, ofText "ruleplan = [\"1\"]\n[rules.custom]\na_b = [\"x\"]\n" = .ok c ∧
      c.registry = .ok r ∧ r.get? "aB" = some rule ∧
      (Element.sequence (.name "a_b") ["1"]).rule? r.lookup =
        .ok (some ⟨rule.validator, ["1"], some "aB", modifier⟩)) ∧
    ∃ c r rule, ofText "ruleplan = [\"1\"]\n[rules.custom]\n\"^c\" = [\"x\"]\n" = .ok c ∧
      c.registry = .ok r ∧ r.get? "^c" = some rule ∧
      (∀ modifier, (Element.sequence (.name "^c") []).rule? r.lookup ≠
        .ok (some ⟨rule.validator, [], some "^c", modifier⟩)) ∧
      (Element.sequence (.name "^^c") []).rule? r.lookup =
        .ok (some ⟨rule.validator, [], some "^c", .bailPrefix⟩) := by
  have hcamel : RuleName.camelize "a_b" = "aB" := by decide +kernel
  have hmarked : RuleName.camelize "^c" = "^c" := by decide +kernel
  refine ⟨?plain, ?marked⟩
  case plain =>
    obtain ⟨c, htext, hcustom⟩ := ofText_of_check
      "ruleplan = [\"1\"]\n[rules.custom]\na_b = [\"x\"]\n"
      (fun c => c.custom = [("a_b", ⟨"x", none⟩)]) (by decide +kernel)
    obtain ⟨r, hr, -⟩ := registers_single (accepted_of_ofText htext) hcustom
      (by rw [hcamel]; decide)
    obtain ⟨rule, hrule, -, hreached⟩ :=
      rule?_custom_iff htext hr ("a_b", ⟨"x", none⟩) (by simp [hcustom])
    rw [hcamel] at hrule hreached
    obtain ⟨modifier, hdeclared⟩ := (hreached ["1"]).1.mpr (by decide)
    exact ⟨c, r, rule, modifier, htext, hr, hrule, hdeclared⟩
  case marked =>
    obtain ⟨c, htext, hcustom⟩ := ofText_of_check
      "ruleplan = [\"1\"]\n[rules.custom]\n\"^c\" = [\"x\"]\n"
      (fun c => c.custom = [("^c", ⟨"x", none⟩)]) (by decide +kernel)
    obtain ⟨r, hr, -⟩ := registers_single (accepted_of_ofText htext) hcustom
      (by rw [hmarked]; decide)
    obtain ⟨rule, hrule, -, hreached⟩ :=
      rule?_custom_iff htext hr ("^c", ⟨"x", none⟩) (by simp [hcustom])
    rw [hmarked] at hrule hreached
    obtain ⟨hplain, hbehind⟩ := hreached []
    exact ⟨c, r, rule, htext, hr, hrule,
      fun modifier hdeclared => hplain.mp ⟨modifier, hdeclared⟩ (by decide), hbehind⟩

/-- The configuration is accepted and its registry made, and what names the rule is dropped. -/
theorem rule?_custom_marked_dropped :
    ∃ c r, ofText "ruleplan = [\"1\"]\n[rules.custom]\n\"^x\" = [\"a\"]\n" = .ok c ∧
      c.custom = [("^x", ⟨"a", none⟩)] ∧ c.registry = .ok r ∧
      (Element.sequence (.name "^x") []).rule? r.lookup = .ok none := by
  have hmarked : RuleName.camelize "^x" = "^x" := by decide +kernel
  have hresolve : (RuleName.resolve "^x").1 = "x" := by decide +kernel
  obtain ⟨c, htext, hcustom⟩ := ofText_of_check
    "ruleplan = [\"1\"]\n[rules.custom]\n\"^x\" = [\"a\"]\n"
    (fun c => c.custom = [("^x", ⟨"a", none⟩)]) (by decide +kernel)
  obtain ⟨r, hr, hregisters⟩ := registers_single (accepted_of_ofText htext) hcustom
    (by rw [hmarked]; decide)
  have hmissing : "x" ∉ r.names := by
    rw [hregisters.mem_names_iff, hcustom]
    rintro (⟨b, ⟨hb, -⟩, hname⟩ | ⟨entry, hentry, hname⟩)
    · exact (by decide : ∀ b ∈ Builtin.all, b.name ≠ "x") b hb hname
    · rw [List.mem_singleton.mp hentry, hmarked] at hname
      exact absurd hname (by decide)
  have hnone : r.lookup "x" = none := by
    rw [Registry.lookup, Option.map_eq_none_iff, Option.eq_none_iff_forall_ne_some]
    exact fun rule hrule => hmissing ((Registry.mem_names_iff ..).mpr ⟨rule, hrule⟩)
  exact ⟨c, r, htext, hcustom, hr, Element.rule?_named_of_none r.lookup (hresolve ▸ hnone)⟩

end Config
end FieldRules
