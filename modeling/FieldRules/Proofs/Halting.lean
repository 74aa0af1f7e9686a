import FieldRules.Rule.Execution
import Mathlib.Data.List.TakeWhile

/-! Where a run of the groups stops.

The groups of a declaration stop a run where its marks and its bail keyword say,
with one exception (`Rule.stranded`): a marked rule that ends the rules before the
keyword, with no unmarked rule right before it, is all that is left at its turn
and stays in a group that does not halt. Without a keyword nothing would run after
that rule, and the exception is not seen (`run_ofRules_of_no_keyword`). With one,
the rules after the keyword run although the rule failed (`run_ofRules_keyword`). -/
namespace FieldRules

namespace Rule

/-! ### Rules one by one -/

theorem runEach_eq_nil (v : Json) (rules : List (Rule × Bool)) :
    runEach v rules = [] ↔ ∀ p ∈ rules, p.1.check v = true := by
  induction rules with
  | nil => simp [runEach]
  | cons p rest ih =>
    obtain ⟨r, halts⟩ := p
    cases hc : r.check v
    · cases halts <;> simp [runEach, hc]
    · simp [runEach, hc, ih]

/-- Whether a rule halts is seen only when the run reaches it, it fails, and a
later rule fails too. -/
theorem runEach_flag_iff (v : Json) (earlier later : List (Rule × Bool)) (r : Rule) :
    runEach v (earlier ++ (r, false) :: later) = runEach v (earlier ++ (r, true) :: later) ↔
      ¬((∀ p ∈ earlier, p.2 = true → p.1.check v = true) ∧ r.check v = false ∧
        ∃ p ∈ later, p.1.check v = false) := by
  induction earlier with
  | nil =>
    cases hc : r.check v
    · have hlater : runEach v later = [] ↔ ¬∃ p ∈ later, p.1.check v = false := by
        simp only [runEach_eq_nil, not_exists, not_and, Bool.not_eq_false]
      simp [runEach, hc, hlater]
    · simp [runEach, hc]
  | cons p rest ih =>
    obtain ⟨s, halts⟩ := p
    -- Either run stops at a failing rule that halts, before the flag counts.
    cases hs : s.check v
    · cases halts
      · simpa [runEach, hs] using ih
      · simp [runEach, hs]
    · simpa [runEach, hs] using ih

/-- Nothing runs after the last rule, so it is the same whether that rule halts. -/
theorem runEach_last_flag (v : Json) (earlier : List (Rule × Bool)) (r : Rule) (a b : Bool) :
    runEach v (earlier ++ [(r, a)]) = runEach v (earlier ++ [(r, b)]) := by
  have h := (runEach_flag_iff v earlier [] r).mpr (by simp)
  cases a <;> cases b
  · rfl
  · exact h
  · exact h.symm
  · rfl

theorem exists_failing_halting (v : Json) (rules : List Rule) :
    (∃ p ∈ halting rules, p.1.check v = false) ↔ ∃ r ∈ rules, r.check v = false := by
  simp [halting]

/-- A rule that gives every value the same verdict. -/
def constant (name : String) (modifier : Modifier) (verdict : Bool) : Rule :=
  ⟨⟨.supplied name, fun _ _ => verdict⟩, [], some name, modifier⟩

/-! ### The last of the marks -/

/-- Marked, with no unmarked rule right before it. -/
def stranded (earlier : List Rule) (r : Rule) : Bool :=
  r.modifier.isBail && (earlier.getLast?.map fun s => s.modifier.isBail).getD true

/-- Each rule halts if it is marked, the last one only if it is not stranded. -/
def partedMarks (rules : List Rule) : List (Rule × Bool) :=
  match rules.getLast? with
  | some r => marks rules.dropLast ++ [(r, r.modifier.isBail && !stranded rules.dropLast r)]
  | none => []

theorem partedMarks_concat (earlier : List Rule) (r : Rule) :
    partedMarks (earlier ++ [r]) =
      marks earlier ++ [(r, r.modifier.isBail && !stranded earlier r)] := by
  simp [partedMarks]

/-- Rules that run after a stranded one show that it did not halt. -/
theorem runEach_partedMarks_iff (v : Json) (before : List Rule) (later : List (Rule × Bool)) :
    runEach v (partedMarks before ++ later) = runEach v (marks before ++ later) ↔
      ¬∃ earlier r, before = earlier ++ [r] ∧ stranded earlier r = true ∧
        (∀ s ∈ earlier, s.modifier.isBail = true → s.check v = true) ∧ r.check v = false ∧
        ∃ p ∈ later, p.1.check v = false := by
  rcases List.eq_nil_or_concat before with rfl | ⟨earlier, r, rfl⟩
  · simp [partedMarks, marks]
  rw [List.concat_eq_append]
  cases hs : stranded earlier r
  · simp [partedMarks_concat, hs, marks]
  · have hbail : r.modifier.isBail = true := (Bool.and_eq_true_iff.mp hs).1
    simpa [partedMarks_concat, marks, hs, hbail] using
      runEach_flag_iff v (marks earlier) later r

theorem runEach_partedMarks (v : Json) (rules : List Rule) :
    runEach v (partedMarks rules) = runEach v (marks rules) := by
  rcases List.eq_nil_or_concat rules with rfl | ⟨earlier, r, rfl⟩
  · rfl
  · rw [List.concat_eq_append, partedMarks_concat, marks_append]
    exact runEach_last_flag v (marks earlier) r _ _

end Rule

namespace Group

/-! ### The flags of the groups -/

theorem flatMap_flagged_ofRun (run : List Rule) :
    (ofRun run).flatMap flagged = run.map fun r => (r, false) := by
  cases run <;> simp [ofRun, flagged]

theorem flatMap_flagged_halting (later : List Rule) :
    (later.map fun r => (⟨[r], true⟩ : Group)).flatMap flagged = Rule.halting later := by
  induction later with
  | nil => rfl
  | cons r rest ih => rw [List.map_cons, List.flatMap_cons, ih]; rfl

/-- Of a run that was read already and of the rules after it, the first halt not at
all and the others by their marks. The last one needs a rule before it that is not
marked: the one right before it or, if it is the first, the end of the run. -/
theorem flatMap_flagged_ofMarks (run later : List Rule) (last : Rule) :
    (ofMarks run (later ++ [last])).flatMap flagged =
      run.map (fun r => (r, false)) ++ (Rule.marks later ++
        [(last, last.modifier.isBail &&
          !(later.getLast?.map fun s => s.modifier.isBail).getD run.isEmpty)]) := by
  induction later generalizing run with
  | nil =>
    simp only [List.nil_append, ofMarks, List.isEmpty_nil, Bool.and_true]
    split
    · rename_i hm
      obtain ⟨hbail, hrun⟩ := Bool.and_eq_true_iff.mp hm
      simp [flatMap_flagged_ofRun, flagged, Rule.marks, hbail, hrun]
    · rename_i hm
      simp [flatMap_flagged_ofRun, Rule.marks, hm]
  | cons r rest ih =>
    -- `last` is still to come, so a marked rule is taken out here and a new run begins.
    have hne : (rest ++ [last]).isEmpty = false := by simp
    simp only [List.cons_append, ofMarks, hne, Bool.and_false, Bool.not_false, Bool.and_true,
      List.getLast?_cons, Option.map_some, Option.getD_some]
    split
    · rename_i hbail
      simp only [List.flatMap_append, List.flatMap_cons, flatMap_flagged_ofRun, ih]
      cases rest.getLast? <;> simp [flagged, Rule.marks, hbail]
    · rename_i hbail
      rw [ih]
      cases rest.getLast? <;> simp [Rule.marks, hbail]

theorem flatMap_flagged_marks (rules : List Rule) :
    (ofMarks [] rules).flatMap flagged = Rule.partedMarks rules := by
  rcases List.eq_nil_or_concat rules with rfl | ⟨earlier, r, rfl⟩
  · rfl
  · rw [List.concat_eq_append, flatMap_flagged_ofMarks, Rule.partedMarks_concat]
    cases hb : r.modifier.isBail <;> simp [Rule.stranded, hb]

/-! ### Around the keyword -/

theorem ofRules_of_no_keyword (rules : List Rule) (h : ∀ r ∈ rules, r.isBailKeyword = false) :
    ofRules rules = ofMarks [] rules := by
  have hall : ∀ r ∈ rules, (!r.isBailKeyword) = true := by simpa using h
  simp [ofRules, List.takeWhile_eq_self_iff.mpr hall, List.dropWhile_eq_nil_iff.mpr hall]

theorem ofRules_keyword (before after : List Rule) (keyword : Rule)
    (hb : ∀ r ∈ before, r.isBailKeyword = false) (hk : keyword.isBailKeyword = true) :
    ofRules (before ++ [keyword] ++ after) =
      ofMarks [] before ++ after.map fun r => ⟨[r], true⟩ := by
  have hall : ∀ r ∈ before, (!r.isBailKeyword) = true := by simpa using hb
  simp [ofRules, List.takeWhile_append_of_pos hall, List.dropWhile_append_of_pos hall, hk]

/-! ### Runs -/

/-- **Without a keyword the groups stop a run at the first failing marked rule**, and
report what the rules one by one report. -/
theorem run_ofRules_of_no_keyword (rules : List Rule) (v : Json)
    (h : ∀ r ∈ rules, r.isBailKeyword = false) :
    run v (ofRules rules) = Rule.runEach v (Rule.marks rules) := by
  rw [run_eq_runEach v _ (wellFormed_ofRules rules), ofRules_of_no_keyword rules h,
    flatMap_flagged_marks, Rule.runEach_partedMarks]

/-- Of two marked rules that fail only the first is reported. -/
theorem run_ofRules_two_marks :
    let rules := [Rule.constant "first" .bailPrefix false, Rule.constant "second" .bailPrefix false]
    (∀ r ∈ rules, r.isBailKeyword = false) ∧
      run .null (ofRules rules) = Rule.runEach .null (Rule.marks rules) ∧
      (run .null (ofRules rules)).map Rule.displayName = ["first"] :=
  ⟨by decide, run_ofRules_of_no_keyword _ .null (by decide), by decide⟩

/-- **Around a keyword the groups stop a run at the first failing rule that stands
after it or is marked and not stranded.** Had a stranded rule halted as well, the
report would be another one exactly when the run reaches that rule, it fails, and so
does a rule after the keyword. -/
theorem run_ofRules_keyword (before after : List Rule) (keyword : Rule) (v : Json)
    (hb : ∀ r ∈ before, r.isBailKeyword = false) (hk : keyword.isBailKeyword = true) :
    run v (ofRules (before ++ [keyword] ++ after)) =
        Rule.runEach v (Rule.partedMarks before ++ Rule.halting after) ∧
      (run v (ofRules (before ++ [keyword] ++ after)) =
          Rule.runEach v (Rule.marks before ++ Rule.halting after) ↔
        ¬∃ earlier r, before = earlier ++ [r] ∧ Rule.stranded earlier r = true ∧
          (∀ s ∈ earlier, s.modifier.isBail = true → s.check v = true) ∧ r.check v = false ∧
          ∃ s ∈ after, s.check v = false) := by
  have hrun : run v (ofRules (before ++ [keyword] ++ after)) =
      Rule.runEach v (Rule.partedMarks before ++ Rule.halting after) := by
    rw [run_eq_runEach v _ (wellFormed_ofRules _), ofRules_keyword before after keyword hb hk,
      List.flatMap_append, flatMap_flagged_marks, flatMap_flagged_halting]
  refine ⟨hrun, ?_⟩
  rw [hrun, Rule.runEach_partedMarks_iff]
  simp only [Rule.exists_failing_halting]

/-- A stranded rule between a marked one that passes and the keyword: it fails, and
the first rule after the keyword is still run. -/
theorem run_ofRules_keyword_after_two_marks :
    let before := [Rule.constant "passes" .bailPrefix true, Rule.constant "fails" .bailPrefix false]
    let keyword := Rule.constant "Bail" .plain true
    let after := [Rule.constant "later" .plain false, Rule.constant "last" .plain false]
    (∀ r ∈ before, r.isBailKeyword = false) ∧ keyword.isBailKeyword = true ∧
      run .null (ofRules (before ++ [keyword] ++ after)) =
        Rule.runEach .null (Rule.partedMarks before ++ Rule.halting after) ∧
      (run .null (ofRules (before ++ [keyword] ++ after))).map Rule.displayName =
        ["fails", "later"] :=
  ⟨by decide, by decide, (run_ofRules_keyword _ _ _ .null (by decide) (by decide)).1, by decide⟩

/-- A marked rule alone before the keyword does not stop the run when it fails. -/
theorem run_ofRules_keyword_ne_marks :
    let before := [Rule.constant "first" .bailPrefix false]
    let keyword := Rule.constant "bail" .plain true
    let after := [Rule.constant "later" .plain false]
    (∀ r ∈ before, r.isBailKeyword = false) ∧ keyword.isBailKeyword = true ∧
      run .null (ofRules (before ++ [keyword] ++ after)) ≠
        Rule.runEach .null (Rule.marks before ++ Rule.halting after) := by
  refine ⟨by decide, by decide, fun h => ?_⟩
  exact absurd (congrArg List.length h) (by decide)

end Group
end FieldRules
