import FieldRules.Proofs.Halting

/-! Which groups rules fall into.

What is a group by itself is seen from the rules around it (`Group.Stands`). Between the
marked rules the unmarked ones stand in runs, each as long as it can be, and no run halts.
A marked rule stands alone and halts, except as the last one with no unmarked rule right
before it. Rules can be parted into such groups in one way only (`Group.parted_unique`).

`Group.eq_ofRules_iff`: the rules before the first bail keyword are parted in that way, and
each rule after it is a halting group. -/
namespace FieldRules

/-- The rules before the first bail keyword, and the rules after it. -/
inductive Rule.CutAtKeyword : List Rule → List Rule → List Rule → Prop where
  | whole {rules : List Rule} : (∀ r ∈ rules, r.isBailKeyword = false) →
      CutAtKeyword rules rules []
  | keyword {before after : List Rule} {keyword : Rule} :
      (∀ r ∈ before, r.isBailKeyword = false) → keyword.isBailKeyword = true →
      CutAtKeyword (before ++ [keyword] ++ after) before after

theorem Rule.exists_cutAtKeyword (rules : List Rule) :
    ∃ before after, CutAtKeyword rules before after := by
  by_cases h : ∃ r ∈ rules, r.isBailKeyword = true
  · obtain ⟨r, hmem, hr⟩ := h
    obtain ⟨keyword, before, after, hbefore, hkeyword, hrules, -⟩ := List.exists_of_eraseP hmem hr
    have hsplit : rules = before ++ [keyword] ++ after := by simpa using hrules
    exact ⟨before, after, hsplit ▸ .keyword (by simpa using hbefore) hkeyword⟩
  · exact ⟨rules, [], .whole (by simpa using h)⟩

namespace Group

/-! ### Where a group stands -/

/-- A group by itself, between the rules before it and the rules after it. -/
inductive Stands (earlier later : List Rule) : Group → Prop where
  /-- Unmarked rules, with no other one next to them. -/
  | run {rules : List Rule} : rules ≠ [] → (∀ r ∈ rules, r.modifier.isBail = false) →
      (∀ r ∈ earlier.getLast?, r.modifier.isBail = true) →
      (∀ r ∈ later.head?, r.modifier.isBail = true) → Stands earlier later ⟨rules, false⟩
  /-- A marked rule, which halts unless it is the last rule and either the only one or right
  behind another marked one. -/
  | marked {r : Rule} {bail : Bool} : r.modifier.isBail = true →
      (bail = false ↔ later = [] ∧
        (earlier = [] ∨ ∃ s ∈ earlier.getLast?, s.modifier.isBail = true)) →
      Stands earlier later ⟨[r], bail⟩

/-- Groups by themselves one after the other, behind some rules. -/
inductive Parted : List Rule → List Group → Prop where
  | nil {earlier : List Rule} : Parted earlier []
  | cons {earlier : List Rule} {g : Group} {rest : List Group} :
      Stands earlier (rest.flatMap rules) g → Parted (earlier ++ g.rules) rest →
      Parted earlier (g :: rest)

theorem Stands.rules_ne_nil {earlier later : List Rule} {g : Group} (h : Stands earlier later g) :
    g.rules ≠ [] := by
  cases h with
  | run hne => exact hne
  | marked => exact List.cons_ne_nil _ _

/-! ### One way only -/

/-- A run that no unmarked rule follows is all that comes before the first marked one. -/
theorem takeWhile_run {run later : List Rule} (hrun : ∀ r ∈ run, r.modifier.isBail = false)
    (hlater : ∀ r ∈ later.head?, r.modifier.isBail = true) :
    (run ++ later).takeWhile (fun r => !r.modifier.isBail) = run := by
  rw [List.takeWhile_append_of_pos (by simpa using hrun)]
  cases later with
  | nil => simp
  | cons r rest => simp [hlater r rfl]

theorem head_run_ne_marked {run later : List Rule} {r : Rule} {others : List Rule}
    (hne : run ≠ []) (hrun : ∀ r ∈ run, r.modifier.isBail = false) (hr : r.modifier.isBail = true) :
    run ++ later ≠ [r] ++ others := by
  obtain ⟨first, rest, rfl⟩ := List.exists_cons_of_ne_nil hne
  intro he
  have hfirst := hrun first (List.mem_cons_self ..)
  rw [(List.cons.inj he).1, hr] at hfirst
  cases hfirst

theorem Stands.unique {earlier later others : List Rule} {g h : Group}
    (hg : Stands earlier later g) (hh : Stands earlier others h)
    (he : g.rules ++ later = h.rules ++ others) : g = h ∧ later = others := by
  cases hg with
  | @run run hne hrun _ hlater =>
    cases hh with
    | @run other _ hother _ hothers =>
      have hsame : run = other := by
        rw [← takeWhile_run hrun hlater, ← takeWhile_run hother hothers]
        exact congrArg _ he
      subst hsame
      exact ⟨rfl, List.append_cancel_left he⟩
    | marked hr _ => exact absurd he (head_run_ne_marked hne hrun hr)
  | @marked r bail hr hbail =>
    cases hh with
    | run hne hrun _ _ => exact absurd he.symm (head_run_ne_marked hne hrun hr)
    | @marked s flag _ hflag =>
      obtain ⟨rfl, rfl⟩ := List.cons.inj he
      have hsame : bail = flag := Bool.eq_iff_iff.mpr (by simpa using not_congr (hbail.trans hflag.symm))
      exact ⟨by rw [hsame], rfl⟩

theorem parted_unique {earlier : List Rule} {a b : List Group} (ha : Parted earlier a)
    (hb : Parted earlier b) (he : a.flatMap rules = b.flatMap rules) : a = b := by
  induction ha generalizing b with
  | nil =>
    cases hb with
    | nil => rfl
    | cons hh _ => exact absurd (List.append_eq_nil_iff.mp he.symm).1 hh.rules_ne_nil
  | cons hg _ ih =>
    cases hb with
    | nil => exact absurd (List.append_eq_nil_iff.mp he).1 hg.rules_ne_nil
    | cons hh hrest =>
      obtain ⟨rfl, hlater⟩ := hg.unique hh he
      rw [ih hrest hlater]

/-! ### The groups of the marks -/

theorem parted_ofRun_append {earlier run : List Rule} {rest : List Group}
    (hearlier : ∀ r ∈ earlier.getLast?, r.modifier.isBail = true)
    (hrun : ∀ r ∈ run, r.modifier.isBail = false)
    (hlater : ∀ r ∈ (rest.flatMap rules).head?, r.modifier.isBail = true)
    (hrest : Parted (earlier ++ run) rest) : Parted earlier (ofRun run ++ rest) := by
  cases run with
  | nil => simpa [ofRun] using hrest
  | cons first others => exact .cons (.run (List.cons_ne_nil _ _) hrun hearlier hlater) hrest

/-- A rule that is marked and has another one before it in its run, or after it, halts. -/
theorem stands_halting {earlier run later : List Rule} {r : Rule} (hr : r.modifier.isBail = true)
    (hrun : ∀ s ∈ run, s.modifier.isBail = false) (hne : run = [] → later ≠ []) :
    Stands (earlier ++ run) later ⟨[r], true⟩ := by
  refine .marked hr ⟨fun h => (nomatch h), ?_⟩
  rintro ⟨hlater, hlast⟩
  rcases List.eq_nil_or_concat run with rfl | ⟨before, last, rfl⟩
  · exact absurd hlater (hne rfl)
  · rw [List.concat_eq_append] at hrun hlast
    have hunmarked := hrun last (by simp)
    simp [← List.append_assoc, hunmarked] at hlast

/-- The groups of a run that has been read already, behind a marked rule or the beginning, and
of the rules after it. -/
theorem parted_ofMarks {earlier run : List Rule} (later : List Rule)
    (hearlier : ∀ r ∈ earlier.getLast?, r.modifier.isBail = true)
    (hrun : ∀ r ∈ run, r.modifier.isBail = false) : Parted earlier (ofMarks run later) := by
  induction later generalizing earlier run with
  | nil => simpa [ofMarks] using parted_ofRun_append hearlier hrun (by simp) .nil
  | cons r rest ih =>
    unfold ofMarks
    split
    · rename_i htaken
      obtain ⟨hr, hothers⟩ := Bool.and_eq_true_iff.mp htaken
      have hne : run = [] → (ofMarks [] rest).flatMap rules ≠ [] := by
        rintro rfl
        simpa [flatMap_rules_ofMarks] using hothers
      refine parted_ofRun_append hearlier hrun (by simpa using hr) ?_
      exact .cons (stands_halting hr hrun hne) (ih (by simpa using hr) (List.forall_mem_nil _))
    · rename_i hkept
      cases hr : r.modifier.isBail
      · exact ih hearlier (by simpa [or_imp, forall_and, hr] using hrun)
      · -- Nothing was read before the rule, and nothing is left after it.
        obtain ⟨rfl, rfl⟩ : run = [] ∧ rest = [] := by simpa [hr] using hkept
        refine .cons (.marked hr ⟨fun _ => ⟨rfl, ?_⟩, fun _ => rfl⟩) .nil
        cases hlast : earlier.getLast? with
        | none => exact .inl (List.getLast?_eq_none_iff.mp hlast)
        | some s => exact .inr ⟨s, rfl, hearlier s hlast⟩

theorem parted_iff (before : List Rule) (groups : List Group) :
    Parted [] groups ∧ groups.flatMap rules = before ↔ groups = ofMarks [] before := by
  have hparted : Parted [] (ofMarks [] before) :=
    parted_ofMarks before (by simp) (List.forall_mem_nil _)
  have hrules : (ofMarks [] before).flatMap rules = before := flatMap_rules_ofMarks [] before
  constructor
  · rintro ⟨hgroups, hsame⟩
    exact parted_unique hgroups hparted (hsame.trans hrules.symm)
  · rintro rfl
    exact ⟨hparted, hrules⟩

/-! ### Around the keyword -/

theorem ofRules_of_cut {rules before after : List Rule}
    (h : Rule.CutAtKeyword rules before after) :
    ofRules rules = ofMarks [] before ++ after.map fun r => ⟨[r], true⟩ := by
  cases h with
  | whole hrules => rw [ofRules_of_no_keyword rules hrules, List.map_nil, List.append_nil]
  | keyword hbefore hkeyword => exact ofRules_keyword before after _ hbefore hkeyword

/-- **The groups of rules, and no others.** The rules before the first bail keyword are parted
into the runs of unmarked ones and the marked ones; each rule after it is a halting group. -/
theorem eq_ofRules_iff (rules : List Rule) (groups : List Group) :
    groups = ofRules rules ↔ ∃ before after, Rule.CutAtKeyword rules before after ∧
      ∃ parts, Parted [] parts ∧ parts.flatMap Group.rules = before ∧
        groups = parts ++ after.map fun r => ⟨[r], true⟩ := by
  constructor
  · rintro rfl
    obtain ⟨before, after, hcut⟩ := Rule.exists_cutAtKeyword rules
    obtain ⟨hparted, hrules⟩ := (parted_iff before _).mpr rfl
    exact ⟨before, after, hcut, ofMarks [] before, hparted, hrules, ofRules_of_cut hcut⟩
  · rintro ⟨before, after, hcut, parts, hparted, hrules, rfl⟩
    rw [(parted_iff before parts).mp ⟨hparted, hrules⟩, ofRules_of_cut hcut]

/-- The last rule before the keyword comes right behind another marked one, so it does not
halt, marked as it is. -/
example :
    let rule := fun name modifier => Rule.constant name modifier true
    (ofRules [rule "a" .plain, rule "b" .bailPrefix, rule "c" .bailPrefix, rule "bail" .plain,
      rule "d" .bailPrefix]).map (fun g => (g.names, g.bail)) =
        [(["a"], false), (["b"], true), (["c"], false), (["d"], true)] := by
  decide

end Group
end FieldRules
