import FieldRules.Proofs.ByteOrder
import FieldRules.Proofs.Configured

/-! What a load of custom rules leaves.

Definitions are taken in the order of their written names, byte by byte, and each is looked
at when the rules of all earlier ones are registered: it may have no name, its pattern may
not be one, or the camel case of its name may be taken (`Registry.Fails`). The first that
fails ends the load.

What is looked at changes with every rule, but what is taken can be said from the beginning
(`Registry.Taken`): a name that is registered, or that of an earlier definition. Each step
hands that on to the rest (`Registry.taken_later`).

`Registry.load_ends`: a load ends at the first definition that fails, or at none. The rules
of those before it are registered then, beside what was there, which stays as it was. -/
namespace FieldRules.Registry
open Config (Defines)

/-! ### Definitions that fail -/

/-- What is wrong with a definition, when it is said whether its name is taken. Of several
things the first counts. -/
inductive Fails (taken : Prop) (entry : String × CustomRule) : RuleError → Prop where
  | unnamed : RuleName.camelize entry.1 = "" → Fails taken entry .emptyName
  | unreadable : RuleName.camelize entry.1 ≠ "" → Pattern.ofText? entry.2.pattern = none →
      Fails taken entry (.badPattern (RuleName.camelize entry.1) entry.2.pattern)
  | duplicate : RuleName.camelize entry.1 ≠ "" → Pattern.ofText? entry.2.pattern ≠ none → taken →
      Fails taken entry (.duplicateName (RuleName.camelize entry.1))

/-- The name is registered, or an earlier definition has it. -/
def Taken (r : Registry) (custom : Dict CustomRule) (entry : String × CustomRule) : Prop :=
  r.contains (RuleName.camelize entry.1) = true ∨
    ∃ other ∈ custom, Text.bytes other.1 < Text.bytes entry.1 ∧
      RuleName.camelize other.1 = RuleName.camelize entry.1

instance (r : Registry) (custom : Dict CustomRule) (entry : String × CustomRule) :
    Decidable (Taken r custom entry) :=
  inferInstanceAs (Decidable (_ ∨ _))

/-- The definitions with earlier names. -/
def before (custom : Dict CustomRule) (written : String) : Dict CustomRule :=
  custom.filter fun other => Text.bytes other.1 < Text.bytes written

/-- A definition fails, and none before it does. -/
structure FailsFirst (r : Registry) (custom : Dict CustomRule) (entry : String × CustomRule)
    (problem : RuleError) : Prop where
  mem : entry ∈ custom
  fails : Fails (Taken r custom entry) entry problem
  first : ∀ other ∈ before custom entry.1, ∀ later, ¬Fails (Taken r custom other) other later

/-- What was registered is still there as it was, beside the rules of the definitions, one
of each, and nothing else is. -/
structure Adds (r : Registry) (defined : Dict CustomRule) (made : Registry) : Prop where
  kept : ∀ name rule, r.get? name = some rule → made.get? name = some rule
  added : ∀ entry ∈ defined, ∃ rule,
    made.get? (RuleName.camelize entry.1) = some rule ∧ Defines entry rule
  only : ∀ name rule, made.get? name = some rule → r.get? name = some rule ∨
    ∃ entry ∈ defined, RuleName.camelize entry.1 = name ∧ Defines entry rule
  size_eq : made.size = r.size + defined.length

/-! ### One definition -/

section
variable {r : Registry} {entry : String × CustomRule}

theorem fails_unique {taken : Prop} {a b : RuleError} (ha : Fails taken entry a)
    (hb : Fails taken entry b) : a = b := by
  cases ha with
  | unnamed hname =>
    cases hb with
    | unnamed => rfl
    | unreadable hne => exact absurd hname hne
    | duplicate hne => exact absurd hname hne
  | unreadable hne hnone =>
    cases hb with
    | unnamed hname => exact absurd hname hne
    | unreadable => rfl
    | duplicate _ hread => exact absurd hnone hread
  | duplicate hne hread =>
    cases hb with
    | unnamed hname => exact absurd hname hne
    | unreadable _ hnone => exact absurd hnone hread
    | duplicate => rfl

/-- What is wrong with a definition is the error that it is refused with. -/
theorem define_of_fails {problem : RuleError}
    (h : Fails (r.contains (RuleName.camelize entry.1) = true) entry problem) :
    r.define entry.1 entry.2 = .error problem := by
  cases h with
  | unnamed hname => simp [define, PatternRule.ofDefinition, hname]
  | unreadable hne hnone => simp [define, PatternRule.ofDefinition, hne, hnone]
  | duplicate hne hpattern htaken =>
    obtain ⟨pattern, hread⟩ := Option.ne_none_iff_exists'.mp hpattern
    obtain ⟨rule, hrule, -⟩ := Config.customRule?_of_readable hne hread
    rw [define_of_customRule? hrule, if_pos htaken]

/-- A definition that does not fail is registered, under a name that is new. -/
theorem define_of_not_fails
    (h : ∀ problem, ¬Fails (r.contains (RuleName.camelize entry.1) = true) entry problem) :
    ∃ rule, Defines entry rule ∧ r.contains (RuleName.camelize entry.1) = false ∧
      r.define entry.1 entry.2 = .ok (r.register rule) := by
  have hname : RuleName.camelize entry.1 ≠ "" := fun he => h _ (.unnamed he)
  have hpattern : Pattern.ofText? entry.2.pattern ≠ none := fun he => h _ (.unreadable hname he)
  have hnew : r.contains (RuleName.camelize entry.1) = false :=
    Bool.eq_false_iff.mpr fun he => h _ (.duplicate hname hpattern he)
  obtain ⟨pattern, hread⟩ := Option.ne_none_iff_exists'.mp hpattern
  obtain ⟨rule, hrule, hdefines⟩ := Config.customRule?_of_readable hname hread
  refine ⟨rule, hdefines, hnew, ?_⟩
  rw [define_of_customRule? hrule, if_neg (by simp [hnew])]

theorem name_of_defines {rule : RegisteredRule} (h : Defines entry rule) :
    rule.name = RuleName.camelize entry.1 := by
  obtain ⟨pattern, -, rfl⟩ := h
  rfl

end

/-! ### One definition after the other -/

section
variable {r : Registry} {first : String × CustomRule} {rest : Dict CustomRule}
  (h : Dict.Ascending (first :: rest))
include h

theorem bytes_first_lt {entry : String × CustomRule} (hentry : entry ∈ rest) :
    Text.bytes first.1 < Text.bytes entry.1 :=
  (Text.bytes_lt_iff ..).mpr (List.rel_of_pairwise_cons h hentry)

theorem not_bytes_lt_first {entry : String × CustomRule} (hentry : entry ∈ first :: rest) :
    ¬Text.bytes entry.1 < Text.bytes first.1 := by
  intro hlt
  rcases List.mem_cons.mp hentry with rfl | hrest
  · exact List.lt_irrefl _ hlt
  · exact List.lt_asymm hlt (bytes_first_lt h hrest)

theorem before_first : before (first :: rest) first.1 = [] := by
  rw [before, List.filter_eq_nil_iff]
  intro entry hentry
  simpa using not_bytes_lt_first h hentry

theorem before_later {entry : String × CustomRule} (hentry : entry ∈ rest) :
    before (first :: rest) entry.1 = first :: before rest entry.1 := by
  rw [before, List.filter_cons_of_pos (by simpa using bytes_first_lt h hentry), before]

/-- No definition is before the first one. -/
theorem taken_first :
    Taken r (first :: rest) first ↔ r.contains (RuleName.camelize first.1) = true := by
  apply or_iff_left
  intro ⟨other, hother, hlt, _⟩
  exact not_bytes_lt_first h hother hlt

/-- When the first rule is registered, the same names are taken for the rest. -/
theorem taken_later {rule : RegisteredRule} (hrule : rule.name = RuleName.camelize first.1)
    {entry : String × CustomRule} (hentry : entry ∈ rest) :
    Taken r (first :: rest) entry ↔ Taken (r.register rule) rest entry := by
  have hlt := bytes_first_lt h hentry
  simp only [Taken, List.exists_mem_cons_iff, hlt, true_and, contains_register, hrule,
    Bool.or_eq_true, decide_eq_true_eq]
  rw [or_left_comm, or_assoc]

/-- What fails first among the rest fails first of all if the first definition does not fail. -/
theorem failsFirst_cons {rule : RegisteredRule} (hrule : rule.name = RuleName.camelize first.1)
    (hfirst : ∀ problem, ¬Fails (r.contains (RuleName.camelize first.1) = true) first problem)
    {entry : String × CustomRule} {problem : RuleError}
    (hentry : FailsFirst (r.register rule) rest entry problem) :
    FailsFirst r (first :: rest) entry problem := by
  refine ⟨List.mem_cons_of_mem _ hentry.mem, ?_, ?_⟩
  · rw [taken_later h hrule hentry.mem]
    exact hentry.fails
  · rw [before_later h hentry.mem, List.forall_mem_cons, taken_first h]
    refine ⟨hfirst, fun other hother => ?_⟩
    rw [taken_later h hrule (List.mem_of_mem_filter hother)]
    exact hentry.first other hother

end

/-! ### What a load leaves -/

theorem adds_refl (r : Registry) : Adds r [] r :=
  ⟨fun _ _ hold => hold, List.forall_mem_nil _, fun _ _ hold => .inl hold, rfl⟩

theorem adds_cons {r made : Registry} {first : String × CustomRule} {rest : Dict CustomRule}
    {rule : RegisteredRule} (hrule : Defines first rule)
    (hnew : r.contains (RuleName.camelize first.1) = false)
    (h : Adds (r.register rule) rest made) : Adds r (first :: rest) made := by
  have hname := name_of_defines hrule
  refine ⟨?kept, ?added, ?only, ?size⟩
  case kept =>
    intro name old hold
    apply h.kept
    rw [get?_register, if_neg, hold]
    intro he
    rw [← hname, he, contains_eq, hold] at hnew
    cases hnew
  case added =>
    refine List.forall_mem_cons.mpr ⟨⟨rule, h.kept _ _ ?_, hrule⟩, h.added⟩
    rw [get?_register, if_pos hname]
  case only =>
    intro name found hfound
    rcases h.only name found hfound with hold | ⟨entry, hentry, hadded⟩
    · rw [get?_register] at hold
      split at hold
      · cases hold
        exact .inr ⟨first, List.mem_cons_self .., hname.symm.trans (by assumption), hrule⟩
      · exact .inl hold
    · exact .inr ⟨entry, List.mem_cons_of_mem _ hentry, hadded⟩
  case size =>
    rw [h.size_eq, size_register (hname ▸ hnew), List.length_cons]
    omega

/-- A load ends where a definition fails that is the first to do so, or it comes to the end. -/
theorem load_cases (r : Registry) {custom : Dict CustomRule} (h : Dict.Ascending custom) :
    (∃ entry problem, FailsFirst r custom entry problem ∧ (r.load custom).2 = some problem ∧
      Adds r (before custom entry.1) (r.load custom).1) ∨
    (∀ entry ∈ custom, ∀ problem, ¬Fails (Taken r custom entry) entry problem) ∧
      (r.load custom).2 = none ∧ Adds r custom (r.load custom).1 := by
  induction custom generalizing r with
  | nil => exact .inr ⟨List.forall_mem_nil _, rfl, adds_refl r⟩
  | cons first rest ih =>
    by_cases hfails :
        ∃ problem, Fails (r.contains (RuleName.camelize first.1) = true) first problem
    · obtain ⟨problem, hproblem⟩ := hfails
      refine .inl ⟨first, problem, ⟨List.mem_cons_self .., ?_, ?_⟩, ?_, ?_⟩
      · rwa [taken_first h]
      · rw [before_first h]
        exact List.forall_mem_nil _
      · rw [load, define_of_fails hproblem]
      · rw [load, define_of_fails hproblem, before_first h]
        exact adds_refl r
    · obtain ⟨rule, hrule, hnew, hdefine⟩ := define_of_not_fails (not_exists.mp hfails)
      have hname := name_of_defines hrule
      have hload : r.load (first :: rest) = (r.register rule).load rest := by rw [load, hdefine]
      rw [hload]
      rcases ih (r.register rule) (List.Pairwise.of_cons h) with
        ⟨entry, problem, hentry, hproblem, hadds⟩ | ⟨hnone, hproblem, hadds⟩
      · refine .inl ⟨entry, problem, failsFirst_cons h hname (not_exists.mp hfails) hentry,
          hproblem, ?_⟩
        rw [before_later h hentry.mem]
        exact adds_cons hrule hnew hadds
      · refine .inr ⟨?_, hproblem, adds_cons hrule hnew hadds⟩
        rw [List.forall_mem_cons, taken_first h]
        refine ⟨not_exists.mp hfails, fun entry hentry => ?_⟩
        rw [taken_later h hname hentry]
        exact hnone entry hentry

/-- Only one definition is the first to fail, and in one way. -/
theorem failsFirst_unique {r : Registry} {custom : Dict CustomRule} (h : Dict.Ascending custom)
    {a b : String × CustomRule} {pa pb : RuleError} (ha : FailsFirst r custom a pa)
    (hb : FailsFirst r custom b pb) : a = b ∧ pa = pb := by
  have hbefore : ∀ {c d : String × CustomRule} {pc pd : RuleError}, FailsFirst r custom c pc →
      FailsFirst r custom d pd → ¬c.1 < d.1 := by
    intro c d pc pd hc hd hlt
    have hmem : c ∈ before custom d.1 :=
      List.mem_filter.mpr ⟨hc.mem, decide_eq_true ((Text.bytes_lt_iff ..).mpr hlt)⟩
    exact hd.first c hmem pc hc.fails
  have hname : a.1 = b.1 :=
    String.le_antisymm (String.not_lt.mp (hbefore hb ha)) (String.not_lt.mp (hbefore ha hb))
  obtain rfl := List.inj_on_of_nodup_map (Dict.nodup_keys_of_ascending h) ha.mem hb.mem hname
  exact ⟨rfl, fails_unique ha.fails hb.fails⟩

/-- **A load ends at the first definition that fails**, by the bytes of the written names, and
its error says what is wrong with that one. The rules of the definitions before it are added
to the registry; if none fails, the rules of all are. -/
theorem load_ends (r : Registry) {custom : Dict CustomRule} (h : Dict.Ascending custom) :
    (∀ problem, (r.load custom).2 = some problem ↔
      ∃ entry, FailsFirst r custom entry problem) ∧
    (∀ entry problem, FailsFirst r custom entry problem →
      Adds r (before custom entry.1) (r.load custom).1) ∧
    ((r.load custom).2 = none ↔
      ∀ entry ∈ custom, ∀ problem, ¬Fails (Taken r custom entry) entry problem) ∧
    ((r.load custom).2 = none → Adds r custom (r.load custom).1) := by
  rcases load_cases r h with ⟨entry, problem, hentry, hproblem, hadds⟩ | ⟨hnone, hproblem, hadds⟩
  · rw [hproblem]
    refine ⟨fun other => ⟨?_, ?_⟩, fun other later hother => ?_, ⟨fun he => (nomatch he), ?_⟩,
      fun he => (nomatch he)⟩
    · intro he
      cases he
      exact ⟨entry, hentry⟩
    · intro ⟨later, hlater⟩
      rw [(failsFirst_unique h hentry hlater).2]
    · rw [← (failsFirst_unique h hentry hother).1]
      exact hadds
    · intro hnone
      exact absurd hentry.fails (hnone entry hentry.mem problem)
  · rw [hproblem]
    refine ⟨fun problem => ⟨fun he => (nomatch he), ?_⟩, fun entry problem hentry => ?_,
      iff_of_true rfl hnone, fun _ => hadds⟩
    · intro ⟨entry, hentry⟩
      exact absurd hentry.fails (hnone entry hentry.mem problem)
    · exact absurd hentry.fails (hnone entry hentry.mem problem)

/-- The second spelling of one name fails, though the pattern after it is none; without the
first spelling it is loaded. -/
theorem load_ends_second_spelling :
    let second : String × CustomRule := ("a_b", ⟨"y", none⟩)
    let custom : Dict CustomRule := [("aB", ⟨"x", none⟩), second, ("c", ⟨"(", none⟩)]
    Dict.Ascending custom ∧ FailsFirst builtins custom second (.duplicateName "aB") ∧
      (builtins.load custom).2 = some (.duplicateName "aB") ∧
      Adds builtins [("aB", ⟨"x", none⟩)] (builtins.load custom).1 ∧
      (builtins.load [second]).2 = none ∧ Adds builtins [second] (builtins.load [second]).1 := by
  intro second custom
  have hascending : Dict.Ascending custom := (Dict.ascending_iff_keys custom).mpr (by decide)
  have hcamel : RuleName.camelize "aB" = "aB" := by decide +kernel
  have hsecond : RuleName.camelize "a_b" = "aB" := by decide +kernel
  have hx : Pattern.ofText? "x" ≠ none := Option.isSome_iff_ne_none.mp (by decide +kernel)
  have hy : Pattern.ofText? "y" ≠ none := Option.isSome_iff_ne_none.mp (by decide +kernel)
  have hfails : FailsFirst builtins custom second (.duplicateName "aB") := by
    refine ⟨by simp [custom], ?_, ?_⟩
    · rw [← hsecond]
      exact .duplicate (by rw [hsecond]; decide) hy (by decide +kernel)
    · have hbefore : before custom second.1 = [("aB", ⟨"x", none⟩)] := by decide +kernel
      rw [hbefore, List.forall_mem_singleton]
      intro later hlater
      cases hlater with
      | unnamed hname => exact absurd (hcamel.symm.trans hname) (by decide)
      | unreadable _ hpattern => exact hx hpattern
      | duplicate _ _ htaken => exact absurd htaken (by decide +kernel)
  obtain ⟨hproblem, hadds, -, -⟩ := load_ends builtins hascending
  obtain ⟨-, -, hnone, hall⟩ := @load_ends builtins [second] (List.pairwise_singleton ..)
  have hloaded : (builtins.load [second]).2 = none := by decide +kernel
  exact ⟨hascending, hfails, (hproblem _).mpr ⟨_, hfails⟩, hadds _ _ hfails, hloaded, hall hloaded⟩

end FieldRules.Registry
