import FieldRules.Plan
import FieldRules.Proofs.Ascending
import Mathlib.Data.List.Nodup

/-! Fields compile apart from each other.

The outcomes of fields are told in two lists, plans and errors, and each is put in the
order of the fields. With one outcome a field, the order in which outcomes come in is
lost by that (`Compilation.ofOutcomes_perm`), and nothing else is
(`Compilation.Reports`): every field has its plan or its error, once, and it is the one
that its own declaration gives.

`Compilation.reports_ofOutcomes`: so a compilation says the same of a field whatever is
declared for the others. -/
namespace FieldRules.Compilation

/-! ### Lists in the order of fields -/

section
variable {α : Type} {field : α → String}

variable (field) in
theorem perm_byField (items : List α) : (byField field items).Perm items :=
  List.mergeSort_perm ..

/-- With one item a field, the order is strict. -/
theorem ascending_byField {items : List α} (h : (items.map field).Nodup) :
    (byField field items).Pairwise fun a b => field a < field b := by
  have hnodup := ((perm_byField field items).map field).nodup_iff.mpr h
  refine (pairwise_mergeSort_key field items).imp₂ ?_ (List.pairwise_map.mp hnodup)
  intro a b hle hne
  exact String.not_le.mp fun hge => hne (String.le_antisymm hle hge)

theorem nodup_of_ascending {items : List α} (h : items.Pairwise fun a b => field a < field b) :
    (items.map field).Nodup := by
  refine List.pairwise_map.mpr (h.imp ?_)
  intro a b hlt heq
  exact String.lt_irrefl (field b) (heq ▸ hlt)

/-- An order of fields that is strict leaves no choice. -/
theorem eq_of_perm_of_ascending {a b : List α} (ha : a.Pairwise fun x y => field x < field y)
    (hb : b.Pairwise fun x y => field x < field y) (h : a.Perm b) : a = b :=
  h.eq_of_pairwise (fun _ _ _ _ hxy hyx => absurd hyx (String.lt_asymm hxy)) ha hb

/-- Nor is there a choice where the items are known. -/
theorem eq_of_mem_iff {a b : List α} (ha : a.Pairwise fun x y => field x < field y)
    (hb : b.Pairwise fun x y => field x < field y) (h : ∀ item, item ∈ a ↔ item ∈ b) : a = b := by
  have hnodup {items : List α} (hitems : items.Pairwise fun x y => field x < field y) :
      items.Nodup := .of_map field (nodup_of_ascending hitems)
  exact eq_of_perm_of_ascending ha hb
    ((List.perm_ext_iff_of_nodup (hnodup ha) (hnodup hb)).mpr h)

theorem byField_of_ascending {items : List α} (h : (items.map field).Pairwise (· < ·)) :
    byField field items = items := by
  have hitems : items.Pairwise fun a b => field a < field b := List.pairwise_map.mp h
  exact eq_of_perm_of_ascending (ascending_byField (nodup_of_ascending hitems)) hitems
    (perm_byField field items)

theorem byField_perm {a b : List α} (h : a.Perm b) (hnodup : (a.map field).Nodup) :
    byField field a = byField field b := by
  refine eq_of_perm_of_ascending (ascending_byField hnodup)
    (ascending_byField ((h.map field).nodup_iff.mp hnodup)) ?_
  exact (perm_byField field a).trans (h.trans (perm_byField field b).symm)

end

/-! ### Outcomes -/

theorem plan?_eq_some_iff (outcome : FieldOutcome) (p : FieldPlan) :
    plan? outcome = some p ↔ outcome = (p.field, .ok p.groups) := by
  obtain ⟨field, result⟩ := outcome
  obtain ⟨name, groups⟩ := p
  cases result <;> simp [plan?]

theorem error?_eq_some_iff (outcome : FieldOutcome) (e : FieldError) :
    error? outcome = some e ↔ outcome = (e.field, .error e.error) := by
  obtain ⟨field, result⟩ := outcome
  obtain ⟨name, error⟩ := e
  cases result <;> simp [error?]

/-- What is picked from outcomes is about their fields, in their order. -/
theorem map_field_sublist {α : Type} {pick : FieldOutcome → Option α} {field : α → String}
    (h : ∀ outcome item, pick outcome = some item → outcome.1 = field item)
    (outcomes : List FieldOutcome) :
    ((outcomes.filterMap pick).map field).Sublist (outcomes.map Prod.fst) := by
  induction outcomes with
  | nil => exact .slnil
  | cons outcome rest ih =>
    cases hpick : pick outcome with
    | none =>
      rw [List.filterMap_cons_none hpick]
      exact ih.cons outcome.1
    | some item =>
      rw [List.filterMap_cons_some hpick, List.map_cons, List.map_cons, h outcome item hpick]
      exact ih.cons_cons (field item)

theorem plans_sublist (outcomes : List FieldOutcome) :
    ((outcomes.filterMap plan?).map FieldPlan.field).Sublist (outcomes.map Prod.fst) :=
  map_field_sublist (fun _ p hp => by rw [(plan?_eq_some_iff _ p).mp hp]) outcomes

theorem errors_sublist (outcomes : List FieldOutcome) :
    ((outcomes.filterMap error?).map FieldError.field).Sublist (outcomes.map Prod.fst) :=
  map_field_sublist (fun _ e he => by rw [(error?_eq_some_iff _ e).mp he]) outcomes

theorem nodup_plans {outcomes : List FieldOutcome} (h : (outcomes.map Prod.fst).Nodup) :
    ((outcomes.filterMap plan?).map FieldPlan.field).Nodup :=
  h.sublist (plans_sublist outcomes)

theorem nodup_errors {outcomes : List FieldOutcome} (h : (outcomes.map Prod.fst).Nodup) :
    ((outcomes.filterMap error?).map FieldError.field).Nodup :=
  h.sublist (errors_sublist outcomes)

/-- Every outcome is a plan or an error. -/
theorem fields_perm (outcomes : List FieldOutcome) :
    ((outcomes.filterMap plan?).map FieldPlan.field ++
      (outcomes.filterMap error?).map FieldError.field).Perm (outcomes.map Prod.fst) := by
  induction outcomes with
  | nil => exact .nil
  | cons outcome rest ih =>
    obtain ⟨field, result⟩ := outcome
    cases result with
    | ok groups => exact ih.cons field
    | error error => exact List.perm_middle.trans (ih.cons field)

/-- Outcomes of fields that are all different may come in any order. -/
theorem ofOutcomes_perm {a b : List FieldOutcome} (h : a.Perm b)
    (hnodup : (a.map Prod.fst).Nodup) : ofOutcomes a = ofOutcomes b := by
  have hplans := byField_perm (h.filterMap plan?) (nodup_plans hnodup)
  have herrors := byField_perm (h.filterMap error?) (nodup_errors hnodup)
  rw [ofOutcomes, hplans, herrors, ofOutcomes]

section
variable {outcomes : List FieldOutcome}

theorem mem_plans_ofOutcomes (p : FieldPlan) :
    p ∈ (ofOutcomes outcomes).plans ↔ (p.field, .ok p.groups) ∈ outcomes := by
  rw [ofOutcomes, (perm_byField _ _).mem_iff, List.mem_filterMap]
  simp [plan?_eq_some_iff]

theorem mem_errors_ofOutcomes (e : FieldError) :
    e ∈ (ofOutcomes outcomes).errors ↔ (e.field, .error e.error) ∈ outcomes := by
  rw [ofOutcomes, (perm_byField _ _).mem_iff, List.mem_filterMap]
  simp [error?_eq_some_iff]

theorem pairwise_plans (h : (outcomes.map Prod.fst).Nodup) :
    (ofOutcomes outcomes).plans.Pairwise fun a b => a.field < b.field :=
  ascending_byField (nodup_plans h)

theorem pairwise_errors (h : (outcomes.map Prod.fst).Nodup) :
    (ofOutcomes outcomes).errors.Pairwise fun a b => a.field < b.field :=
  ascending_byField (nodup_errors h)

theorem fields_ofOutcomes :
    ((ofOutcomes outcomes).plans.map FieldPlan.field ++
      (ofOutcomes outcomes).errors.map FieldError.field).Perm (outcomes.map Prod.fst) :=
  (((perm_byField _ _).map _).append ((perm_byField _ _).map _)).trans (fields_perm outcomes)

end

/-- The plan of a field is found, as there is no other one of it. -/
theorem planOf?_eq_some_iff {c : Compilation}
    (h : c.plans.Pairwise fun a b => a.field < b.field) (field : String) (p : FieldPlan) :
    c.planOf? field = some p ↔ p ∈ c.plans ∧ p.field = field := by
  constructor
  · intro hp
    exact ⟨List.mem_of_find?_eq_some hp, by simpa using List.find?_some hp⟩
  · rintro ⟨hmem, rfl⟩
    cases hq : c.planOf? p.field with
    | none => exact absurd hmem (by simpa using List.find?_eq_none.mp hq p)
    | some q =>
      have hfield : q.field = p.field := by simpa using List.find?_some hq
      rw [List.inj_on_of_nodup_map (nodup_of_ascending h) (List.mem_of_find?_eq_some hq) hmem hfield]

/-! ### Fields -/

/-- What a compilation says of declared fields: of each field once, and what its own
declaration gives. -/
structure Reports (lookup : String → Option Validator) (fields : Dict Declaration)
    (c : Compilation) : Prop where
  plans_ascend : c.plans.Pairwise fun a b => a.field < b.field
  errors_ascend : c.errors.Pairwise fun a b => a.field < b.field
  fields_once : (c.plans.map FieldPlan.field ++ c.errors.map FieldError.field).Perm
    (Dict.keys fields)
  mem_plans_iff : ∀ field groups, ⟨field, groups⟩ ∈ c.plans ↔
    ∃ d, Dict.get? fields field = some d ∧ d.groups lookup = .ok groups
  mem_errors_iff : ∀ field error, ⟨field, error⟩ ∈ c.errors ↔
    ∃ d, Dict.get? fields field = some d ∧ d.groups lookup = .error error
  succeeded_iff : c.succeeded = true ↔
    ∀ field d, Dict.get? fields field = some d → ∃ groups, d.groups lookup = .ok groups
  planOf?_iff : ∀ field plan, c.planOf? field = some plan ↔ plan.field = field ∧
    ∃ d, Dict.get? fields field = some d ∧ d.groups lookup = .ok plan.groups

/-- Two compilations say the same of a field. -/
structure Agree (a b : Compilation) (field : String) : Prop where
  plans : ∀ groups, ⟨field, groups⟩ ∈ a.plans ↔ ⟨field, groups⟩ ∈ b.plans
  errors : ∀ error, ⟨field, error⟩ ∈ a.errors ↔ ⟨field, error⟩ ∈ b.errors
  planOf? : a.planOf? field = b.planOf? field

section
variable {lookup : String → Option Validator} {fields : Dict Declaration}
  (h : Dict.Ascending fields)
include h

theorem mem_outcomes_iff (field : String) (result : Except RuleError (List Group)) :
    (field, result) ∈ fields.map (fun (field, d) => (field, d.groups lookup)) ↔
      ∃ d, Dict.get? fields field = some d ∧ d.groups lookup = result := by
  rw [List.mem_map]
  constructor
  · rintro ⟨⟨name, d⟩, hmem, heq⟩
    cases heq
    exact ⟨d, (Dict.mem_iff_get? h ..).mp hmem, rfl⟩
  · rintro ⟨d, hget, rfl⟩
    exact ⟨(field, d), (Dict.mem_iff_get? h ..).mpr hget, rfl⟩

theorem nodup_outcomes :
    ((fields.map fun (field, d) => (field, d.groups lookup)).map Prod.fst).Nodup := by
  rw [List.map_map]
  exact Dict.nodup_keys_of_ascending h

/-- Fields that come in order stay in it. -/
theorem ofFields_of_ascending :
    ofFields lookup fields =
      ⟨(fields.map fun (field, d) => (field, d.groups lookup)).filterMap plan?,
        (fields.map fun (field, d) => (field, d.groups lookup)).filterMap error?⟩ := by
  have hkeys : ((fields.map fun (field, d) => (field, d.groups lookup)).map Prod.fst).Pairwise
      (· < ·) := by
    rw [List.map_map]
    exact (Dict.ascending_iff_keys fields).mp h
  rw [ofFields, ofOutcomes, byField_of_ascending (hkeys.sublist (plans_sublist _)),
    byField_of_ascending (hkeys.sublist (errors_sublist _))]

theorem reports_of_perm {outcomes : List FieldOutcome}
    (ho : outcomes.Perm (fields.map fun (field, d) => (field, d.groups lookup))) :
    Reports lookup fields (ofOutcomes outcomes) := by
  have hnodup := (ho.map Prod.fst).nodup_iff.mpr (nodup_outcomes h)
  have hplans : ∀ field groups, ⟨field, groups⟩ ∈ (ofOutcomes outcomes).plans ↔
      ∃ d, Dict.get? fields field = some d ∧ d.groups lookup = .ok groups := fun field groups => by
    rw [mem_plans_ofOutcomes, ho.mem_iff, mem_outcomes_iff h]
  have herrors : ∀ field error, ⟨field, error⟩ ∈ (ofOutcomes outcomes).errors ↔
      ∃ d, Dict.get? fields field = some d ∧ d.groups lookup = .error error := fun field error => by
    rw [mem_errors_ofOutcomes, ho.mem_iff, mem_outcomes_iff h]
  refine ⟨pairwise_plans hnodup, pairwise_errors hnodup, ?_, hplans, herrors, ?_, ?_⟩
  · have hkeys := ho.map Prod.fst
    rw [List.map_map] at hkeys
    exact fields_ofOutcomes.trans hkeys
  · rw [succeeded, List.isEmpty_iff, List.eq_nil_iff_forall_not_mem]
    constructor
    · intro hnone field d hget
      cases hd : d.groups lookup with
      | ok groups => exact ⟨groups, rfl⟩
      | error error => exact absurd ((herrors field error).mpr ⟨d, hget, hd⟩) (hnone _)
    · rintro hall ⟨field, error⟩ hmem
      obtain ⟨d, hget, hd⟩ := (herrors field error).mp hmem
      obtain ⟨groups, hok⟩ := hall field d hget
      cases hd.symm.trans hok
  · intro field plan
    rw [planOf?_eq_some_iff (pairwise_plans hnodup), and_comm]
    refine and_congr_right ?_
    rintro rfl
    exact hplans plan.field plan.groups

omit h in
/-- What is said of a field hangs on its own declaration. -/
theorem Reports.agree {c other : Compilation} {others : Dict Declaration} {field : String}
    (hc : Reports lookup fields c) (hother : Reports lookup others other)
    (hf : Dict.get? others field = Dict.get? fields field) : Agree other c field := by
  refine ⟨fun groups => ?_, fun error => ?_, Option.ext fun plan => ?_⟩
  · rw [hc.mem_plans_iff, hother.mem_plans_iff, hf]
  · rw [hc.mem_errors_iff, hother.mem_errors_iff, hf]
  · rw [hc.planOf?_iff, hother.planOf?_iff, hf]

/-- **Fields compile apart.** In whatever order their outcomes come in, the compilation is
the same; it tells of every field once, in order, what the declaration of that field
gives; and it tells the same of it when another field is declared anew or left out. -/
theorem reports_ofOutcomes (outcomes : List FieldOutcome)
    (ho : outcomes.Perm (fields.map fun (field, d) => (field, d.groups lookup))) :
    ofOutcomes outcomes = ofFields lookup fields ∧
      Reports lookup fields (ofOutcomes outcomes) ∧
      ∀ field changed, field ≠ changed → ∀ d,
        Agree (ofFields lookup (Dict.put fields changed d)) (ofOutcomes outcomes) field ∧
          Agree (ofFields lookup (Dict.erase fields changed)) (ofOutcomes outcomes) field := by
  have hreports := reports_of_perm h ho
  refine ⟨ofOutcomes_perm ho ((ho.map Prod.fst).nodup_iff.mpr (nodup_outcomes h)), hreports, ?_⟩
  intro field changed hne d
  constructor
  · exact hreports.agree (reports_of_perm (Dict.ascending_put h changed d) .rfl)
      (Dict.get?_put_of_ne fields hne.symm d)
  · exact hreports.agree (reports_of_perm (Dict.ascending_filter h _) .rfl)
      (Dict.get?_erase_of_ne fields hne)

end

/-- The outcomes of three fields come in backwards, and one of the fields is refused; it
still is when the field before it is left out. -/
theorem reports_ofOutcomes_reversed :
    let lookup := fun name =>
      if name = "min" then some (⟨.supplied "min", fun _ _ => true⟩ : Validator) else none
    let fields : Dict Declaration :=
      [("age", .pipe "min:18"), ("name", .pipe "^min|no_pe:1"), ("zip", .empty)]
    let outcomes := (fields.map fun (field, d) => (field, d.groups lookup)).reverse
    Dict.Ascending fields ∧
      outcomes.Perm (fields.map fun (field, d) => (field, d.groups lookup)) ∧
      ofOutcomes outcomes = ofFields lookup fields ∧
      ⟨"name", .unknownRule "no_pe"⟩ ∈ (ofOutcomes outcomes).errors ∧
      ⟨"name", .unknownRule "no_pe"⟩ ∈ (ofFields lookup (Dict.erase fields "age")).errors := by
  intro lookup fields outcomes
  have hfields : Dict.Ascending fields := (Dict.ascending_iff_keys fields).mpr (by decide +kernel)
  have houtcomes := List.reverse_perm (fields.map fun (field, d) => (field, d.groups lookup))
  obtain ⟨hsame, hreports, hagree⟩ := reports_ofOutcomes hfields outcomes houtcomes
  have herror := (hreports.mem_errors_iff "name" (.unknownRule "no_pe")).mpr ⟨_, rfl, rfl⟩
  exact ⟨hfields, houtcomes, hsame, herror,
    ((hagree "name" "age" (by decide) .empty).2.errors _).mpr herror⟩

end FieldRules.Compilation
