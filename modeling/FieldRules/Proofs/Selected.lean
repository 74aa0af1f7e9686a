import FieldRules.Proofs.Compiled

/-! A selection of fields is compiled to a selection of what is compiled.

Fields are asked for by name, in any order and as often as one likes. To put the field of one
name after the other into a map (`Config.pick`) is to leave out the fields that no name asks
for (`Config.foldlM_pick`), because a map has one order and holds a field once. And what is
left out of the fields is left out of the plans and of the errors, and nothing else
(`Compilation.ofFields_select`), because each list tells of every field what its own
declaration gives, in the order of the fields.

`Config.compile_select`: so to select and then to compile is to compile and then to select, and
neither the order of the names nor a repeated one counts. -/
namespace FieldRules

/-! ### One name after the other -/

namespace Config
variable {c : Config} {requested : List String}

/-- A selection with the field of one more name, or the name, if no field has it. -/
def pick (c : Config) (selected : Dict Declaration) (name : String) :
    Except String (Dict Declaration) :=
  match Dict.get? c.fields name with
  | some d => .ok (Dict.put selected name d)
  | none => .error name

theorem pick_of_get? {name : String} {d : Declaration} (h : Dict.get? c.fields name = some d)
    (selected : Dict Declaration) : c.pick selected name = .ok (Dict.put selected name d) := by
  rw [pick, h]

theorem pick_of_not_declares {name : String} (h : ¬c.Declares name) (selected : Dict Declaration) :
    c.pick selected name = .error name := by
  have hnone : Dict.get? c.fields name = none :=
    Option.eq_none_iff_forall_ne_some.mpr fun d hd => h ⟨d, hd⟩
  rw [pick, hnone]

/-- Names that are all declared put their fields into a selection, and keep what was in it. -/
theorem foldlM_pick_of_declared (h : ∀ name ∈ requested, c.Declares name)
    {selected : Dict Declaration} (hselected : Dict.Ascending selected) :
    ∃ made, requested.foldlM c.pick selected = .ok made ∧ Dict.Ascending made ∧
      ∀ field, Dict.get? made field =
        if field ∈ requested then Dict.get? c.fields field else Dict.get? selected field := by
  induction requested generalizing selected with
  | nil => exact ⟨selected, rfl, hselected, fun field => by simp⟩
  | cons name rest ih =>
    obtain ⟨⟨d, hd⟩, hrest⟩ := List.forall_mem_cons.mp h
    obtain ⟨made, hmade, hascending, hget⟩ :=
      ih hrest (Dict.ascending_put hselected name d)
    refine ⟨made, ?_, hascending, fun field => ?_⟩
    · rw [List.foldlM_cons, pick_of_get? hd]
      exact hmade
    · rw [hget]
      by_cases hmem : field ∈ rest
      · simp [hmem]
      · by_cases hname : name = field
        · subst hname
          simp [hmem, hd]
        · have hother : field ≠ name := fun he => hname he.symm
          simp [hmem, hother, Dict.get?_put_of_ne selected hname d]

/-- The first name that is not declared is the end. -/
theorem foldlM_pick_of_misses {name : String} (h : c.Misses requested name)
    {selected : Dict Declaration} (hselected : Dict.Ascending selected) :
    requested.foldlM c.pick selected = .error name := by
  obtain ⟨before, after, rfl, hbefore, hname⟩ := h
  obtain ⟨made, hmade, -⟩ := foldlM_pick_of_declared hbefore hselected
  rw [List.foldlM_append, hmade]
  show (name :: after).foldlM c.pick made = .error name
  rw [List.foldlM_cons, pick_of_not_declares hname]
  rfl

/-- Fields that are selected together are the fields put in one after the other. -/
theorem foldlM_pick (h : Dict.Ascending c.fields) (hne : requested ≠ []) :
    requested.foldlM c.pick [] = select c.fields requested := by
  by_cases hall : ∀ name ∈ requested, c.Declares name
  · obtain ⟨made, hmade, hascending, hget⟩ := foldlM_pick_of_declared hall .nil
    obtain ⟨selected, hselect, hselects⟩ := select_of_declared h hall
    have hmakes : c.Selects requested made := by
      refine ⟨hall, hascending, fun field d => ?_⟩
      rw [hget]
      by_cases hmem : field ∈ requested <;> simp [hmem, hne, Dict.get?]
    rw [hmade, hselect, hmakes.unique hselects]
  · obtain ⟨name, hname⟩ := exists_misses (by simpa using hall)
    rw [foldlM_pick_of_misses hname .nil, select_of_misses hname]

/-! ### What is selected -/

theorem Misses.not_declares {name : String} (h : c.Misses requested name) :
    ∃ name ∈ requested, ¬c.Declares name := by
  obtain ⟨before, after, rfl, -, hname⟩ := h
  exact ⟨name, by simp, hname⟩

/-- A selection is refused for the first name that is not declared, and for no other reason. -/
theorem select_eq_error_iff (h : Dict.Ascending c.fields) (name : String) :
    select c.fields requested = .error name ↔ c.Misses requested name := by
  refine ⟨fun herror => ?_, select_of_misses⟩
  by_cases hall : ∀ name ∈ requested, c.Declares name
  · obtain ⟨selected, hselect, -⟩ := select_of_declared h hall
    cases herror.symm.trans hselect
  · obtain ⟨first, hfirst⟩ := exists_misses (by simpa using hall)
    cases herror.symm.trans (select_of_misses hfirst)
    exact hfirst

theorem select_eq_ok_iff (h : Dict.Ascending c.fields) (selected : Dict Declaration) :
    select c.fields requested = .ok selected ↔ c.Selects requested selected := by
  constructor
  · intro hselect
    by_cases hall : ∀ name ∈ requested, c.Declares name
    · obtain ⟨made, hmade, hselects⟩ := select_of_declared h hall
      cases hselect.symm.trans hmade
      exact hselects
    · obtain ⟨name, hname⟩ := exists_misses (by simpa using hall)
      cases hselect.symm.trans (select_of_misses hname)
  · intro hselects
    obtain ⟨made, hmade, hothers⟩ := select_of_declared h hselects.declared
    rw [hmade, hothers.unique hselects]

/-- Only which names there are counts. -/
theorem Selects.congr {others : List String} {selected : Dict Declaration}
    (h : c.Selects requested selected) (hsame : ∀ name, name ∈ others ↔ name ∈ requested) :
    c.Selects others selected where
  declared name hname := h.declared name ((hsame name).mp hname)
  ascending := h.ascending
  get?_iff field d := by
    have hnil : others = [] ↔ requested = [] := by
      simp only [List.eq_nil_iff_forall_not_mem, hsame]
    rw [h.get?_iff, hsame, hnil]

end Config

/-! ### What is compiled -/

namespace Compilation

/-- Two compilations, one of all fields and one of some of them: it tells of these what the
other does, and of no others. -/
theorem restrict_of_reports {lookup : String → Option Validator} {fields selected : Dict Declaration}
    {whole part : Compilation} (hwhole : Reports lookup fields whole)
    (hpart : Reports lookup selected part) {keep : String → Bool}
    (hselected : ∀ field d, Dict.get? selected field = some d ↔
      keep field = true ∧ Dict.get? fields field = some d) :
    part.plans = whole.plans.filter (fun p => keep p.field) ∧
      part.errors = whole.errors.filter fun e => keep e.field := by
  constructor
  · refine eq_of_mem_iff hpart.plans_ascend (hwhole.plans_ascend.filter _) fun p => ?_
    rw [List.mem_filter, hpart.mem_plans_iff, hwhole.mem_plans_iff]
    simp only [hselected, and_assoc, exists_and_left]
    exact and_comm
  · refine eq_of_mem_iff hpart.errors_ascend (hwhole.errors_ascend.filter _) fun e => ?_
    rw [List.mem_filter, hpart.mem_errors_iff, hwhole.mem_errors_iff]
    simp only [hselected, and_assoc, exists_and_left]
    exact and_comm

theorem ofFields_select (lookup : String → Option Validator) {c : Config}
    (h : Dict.Ascending c.fields) {requested : List String} (hne : requested ≠ [])
    {selected : Dict Declaration} (hselects : c.Selects requested selected) :
    (ofFields lookup selected).plans =
        (ofFields lookup c.fields).plans.filter (fun p => requested.contains p.field) ∧
      (ofFields lookup selected).errors =
        (ofFields lookup c.fields).errors.filter fun e => requested.contains e.field := by
  refine restrict_of_reports (reports_of_perm h .rfl) (reports_of_perm hselects.ascending .rfl) ?_
  intro field d
  rw [hselects.get?_iff, List.contains_iff_mem, and_comm, or_iff_right hne]

end Compilation

namespace Config

/-- **To select fields and compile them is to compile all fields and select.** Names are taken
one after the other, and the first that no field has is the error. If there is none, the plans
and errors are those of all fields, less those that no name asks for, in the same order; and
the same names in another order, or more than once, select the same. -/
theorem compile_select (c : Config) (h : Dict.Ascending c.fields)
    (lookup : String → Option Validator) (requested : List String) (hne : requested ≠ []) :
    select c.fields requested = requested.foldlM c.pick [] ∧
      ((∃ name, select c.fields requested = .error name) ↔
        ∃ name ∈ requested, ¬c.Declares name) ∧
      (∀ name, select c.fields requested = .error name ↔ c.Misses requested name) ∧
      ∀ selected, select c.fields requested = .ok selected →
        (Compilation.ofFields lookup selected).plans =
            (Compilation.ofFields lookup c.fields).plans.filter
              (fun p => requested.contains p.field) ∧
          (Compilation.ofFields lookup selected).errors =
            (Compilation.ofFields lookup c.fields).errors.filter
              (fun e => requested.contains e.field) ∧
          ∀ others : List String, (∀ name, name ∈ others ↔ name ∈ requested) →
            select c.fields others = .ok selected := by
  refine ⟨(foldlM_pick h hne).symm, ⟨?_, ?_⟩, select_eq_error_iff h, fun selected hselect => ?_⟩
  · rintro ⟨name, herror⟩
    exact ((select_eq_error_iff h name).mp herror).not_declares
  · intro hmissing
    obtain ⟨name, hname⟩ := exists_misses hmissing
    exact ⟨name, select_of_misses hname⟩
  · have hselects := (select_eq_ok_iff h selected).mp hselect
    obtain ⟨hplans, herrors⟩ := Compilation.ofFields_select lookup h hne hselects
    exact ⟨hplans, herrors, fun others hsame =>
      (select_eq_ok_iff h selected).mpr (hselects.congr hsame)⟩

/-- The fields of plans with the names of their rules, group by group, and what is wrong with
the other fields. -/
def told (c : Compilation) : List (String × List (List String)) × List (String × String) :=
  (c.plans.map fun p => (p.field, p.groups.map Group.names),
    c.errors.map fun e => (e.field, e.error.message))

/-- Of three fields two are asked for, against their order and one of them twice, and one of
the two does not compile. Of two names that no field has the one asked for first is the error. -/
theorem compile_select_repeated :
    let lookup := fun name =>
      if name = "min" then some (⟨.supplied "min", fun _ _ => true⟩ : Validator) else none
    let fields : Dict Declaration :=
      [("age", .pipe "min:18"), ("name", .pipe "^min|no_pe:1"), ("zip", .pipe "min:2|^min:3")]
    let c : Config := ⟨"1", [], [], fields, .standard⟩
    let selected : Dict Declaration :=
      [("name", .pipe "^min|no_pe:1"), ("zip", .pipe "min:2|^min:3")]
    Dict.Ascending c.fields ∧ ["zip", "name", "zip"] ≠ [] ∧
      select c.fields ["zip", "name", "zip"] = .ok selected ∧
      told (.ofFields lookup fields) =
        ([("age", [["min"]]), ("zip", [["min"], ["min"]])], [("name", "Unknown rule: no_pe")]) ∧
      told (.ofFields lookup selected) =
        ([("zip", [["min"], ["min"]])], [("name", "Unknown rule: no_pe")]) ∧
      select c.fields ["name", "zip"] = .ok selected ∧
      select c.fields ["zip", "y", "x"] = .error "y" := by
  intro lookup fields c selected
  have hfields : Dict.Ascending c.fields := (Dict.ascending_iff_keys fields).mpr (by decide +kernel)
  obtain ⟨-, -, -, htaken⟩ := compile_select c hfields lookup ["zip", "name", "zip"] (by simp)
  obtain ⟨hplans, herrors, hsame⟩ := htaken selected rfl
  obtain ⟨-, -, hfirst, -⟩ := compile_select c hfields lookup ["zip", "y", "x"] (by simp)
  have hmisses : c.Misses ["zip", "y", "x"] "y" := by
    refine ⟨["zip"], ["x"], rfl, ?_, ?_⟩
    · exact List.forall_mem_singleton.mpr ⟨_, rfl⟩
    · rintro ⟨d, hd⟩
      cases hd
  have hwhole : told (.ofFields lookup fields) = ([("age", [["min"]]), ("zip", [["min"], ["min"]])],
      [("name", "Unknown rule: no_pe")]) := by
    rw [Compilation.ofFields_of_ascending hfields]
    rfl
  have hpart : told (.ofFields lookup selected) =
      ([("zip", [["min"], ["min"]])], [("name", "Unknown rule: no_pe")]) := by
    rw [told, hplans, herrors, Compilation.ofFields_of_ascending hfields]
    rfl
  exact ⟨hfields, by simp, rfl, hwhole, hpart, hsame ["name", "zip"] (by simp [or_comm]),
    (hfirst "y").mpr hmisses⟩

end Config
end FieldRules
