import FieldRules.Rule.Basic

/-! How rules fall into groups.

The first bail keyword goes, and every rule after it is a halting group of its
own. Before it, a marked rule is taken out as a halting group, and the runs of
rules between the marked ones are groups that do not halt. A marked rule that is
all there is left at its turn has nothing to halt: it stays an ordinary group.

`ofMarks` reads the rules before the keyword once, from left to right. The same groups
come from splitting at the first marked rule over and over (`ofMarks_split`), until fewer
than two rules or no marked one is left (`ofMarks_single`, `ofMarks_unmarked`).

Nothing is reordered, and no group is empty. -/
namespace FieldRules.Group

/-- A run as one group, if there is anything in it. -/
def ofRun (run : List Rule) : List Group := if run.isEmpty then [] else [⟨run, false⟩]

/-- The groups of a run that has been read already and of the rules after it. -/
def ofMarks (run : List Rule) : List Rule → List Group
  | [] => ofRun run
  | r :: rest =>
    if r.modifier.isBail && !(run.isEmpty && rest.isEmpty) then
      ofRun run ++ ⟨[r], true⟩ :: ofMarks [] rest
    else ofMarks (run ++ [r]) rest

def ofRules (rules : List Rule) : List Group :=
  ofMarks [] (rules.takeWhile fun r => !r.isBailKeyword) ++
    ((rules.dropWhile fun r => !r.isBailKeyword).drop 1).map fun r => ⟨[r], true⟩

/-! ### Splitting at the first marked rule -/

/-- Unmarked rules are read into the run. -/
theorem ofMarks_unmarked_append (run : List Rule) {before : List Rule} (rest : List Rule)
    (hbefore : ∀ r ∈ before, r.modifier.isBail = false) :
    ofMarks run (before ++ rest) = ofMarks (run ++ before) rest := by
  induction before generalizing run with
  | nil => simp
  | cons r others ih =>
    obtain ⟨hr, hothers⟩ := List.forall_mem_cons.mp hbefore
    have hread : ofMarks run (r :: (others ++ rest)) = ofMarks (run ++ [r]) (others ++ rest) := by
      rw [ofMarks, hr, Bool.false_and, if_neg Bool.false_ne_true]
    rw [List.cons_append, hread, ih _ hothers, List.append_assoc, List.singleton_append]

theorem ofMarks_unmarked {rules : List Rule} (h : ∀ r ∈ rules, r.modifier.isBail = false) :
    ofMarks [] rules = ofRun rules := by
  simpa [ofMarks] using ofMarks_unmarked_append [] [] h

/-- A rule by itself is not split, marked or not. -/
theorem ofMarks_single (r : Rule) : ofMarks [] [r] = [⟨[r], false⟩] := by
  simp [ofMarks, ofRun]

/-- The first marked rule halts, and the rules on its two sides are split each by themselves. -/
theorem ofMarks_split {before : List Rule} {r : Rule} {after : List Rule}
    (hbefore : ∀ s ∈ before, s.modifier.isBail = false) (hr : r.modifier.isBail = true)
    (hmore : before ≠ [] ∨ after ≠ []) :
    ofMarks [] (before ++ r :: after) =
      ofMarks [] before ++ ⟨[r], true⟩ :: ofMarks [] after := by
  have htaken : (r.modifier.isBail && !(before.isEmpty && after.isEmpty)) = true := by
    rcases hmore with hne | hne <;> simp [hr, hne]
  rw [ofMarks_unmarked_append [] _ hbefore, List.nil_append, ofMarks, if_pos htaken,
    ofMarks_unmarked hbefore]

/-! ### The rules of the groups -/

@[simp] theorem flatMap_rules_ofRun (run : List Rule) : (ofRun run).flatMap rules = run := by
  cases run <;> simp [ofRun]

theorem flatMap_rules_ofMarks (run later : List Rule) :
    (ofMarks run later).flatMap rules = run ++ later := by
  induction later generalizing run with
  | nil => simp [ofMarks]
  | cons r rest ih =>
    unfold ofMarks
    split
    · simp [ih]
    · simp [ih]

@[simp] theorem flatMap_rules_halting (later : List Rule) :
    (later.map fun r => (⟨[r], true⟩ : Group)).flatMap Group.rules = later := by
  induction later <;> simp_all

/-- What stands before the first bail keyword and what stands after it are all the
rules but that one. -/
theorem takeWhile_append_drop_dropWhile (rules : List Rule) :
    rules.takeWhile (fun r => !r.isBailKeyword) ++
      (rules.dropWhile fun r => !r.isBailKeyword).drop 1 = rules.eraseP Rule.isBailKeyword := by
  induction rules with
  | nil => rfl
  | cons r rest ih =>
    cases hk : r.isBailKeyword
    · simp only [List.takeWhile_cons, List.dropWhile_cons, List.eraseP_cons, hk, Bool.not_false,
        if_true, cond_false, List.cons_append, ih]
    · simp [hk]

/-- The groups hold the rules in order, the first bail keyword left out. -/
theorem flatMap_rules_ofRules (rules : List Rule) :
    (ofRules rules).flatMap Group.rules = rules.eraseP Rule.isBailKeyword := by
  rw [ofRules, List.flatMap_append, flatMap_rules_ofMarks, flatMap_rules_halting,
    List.nil_append, takeWhile_append_drop_dropWhile]

/-! ### The form of the groups -/

/-- A group holds something, and a halting one holds a single rule. -/
structure WellFormed (g : Group) : Prop where
  rules_ne_nil : g.rules ≠ []
  rules_of_bail : g.bail = true → ∃ r, g.rules = [r]

theorem wellFormed_single (r : Rule) (bail : Bool) : WellFormed ⟨[r], bail⟩ :=
  ⟨List.cons_ne_nil r [], fun _ => ⟨r, rfl⟩⟩

theorem wellFormed_ofRun (run : List Rule) : ∀ g ∈ ofRun run, g.WellFormed := by
  intro g hg
  unfold ofRun at hg
  split at hg
  · cases hg
  · rename_i hne
    obtain rfl := List.mem_singleton.mp hg
    exact ⟨by simpa using hne, fun hbail => nomatch hbail⟩

theorem wellFormed_ofMarks (run later : List Rule) : ∀ g ∈ ofMarks run later, g.WellFormed := by
  induction later generalizing run with
  | nil => exact wellFormed_ofRun run
  | cons r rest ih =>
    intro g hg
    unfold ofMarks at hg
    split at hg
    · rcases List.mem_append.mp hg with hrun | htail
      · exact wellFormed_ofRun run g hrun
      · rcases List.mem_cons.mp htail with rfl | hrest
        · exact wellFormed_single r true
        · exact ih [] g hrest
    · exact ih (run ++ [r]) g hg

theorem wellFormed_ofRules (rules : List Rule) : ∀ g ∈ ofRules rules, g.WellFormed := by
  intro g hg
  rcases List.mem_append.mp hg with hmarks | hlater
  · exact wellFormed_ofMarks [] _ g hmarks
  · obtain ⟨r, _, rfl⟩ := List.mem_map.mp hlater
    exact wellFormed_single r true

end FieldRules.Group
