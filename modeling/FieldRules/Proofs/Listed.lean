import FieldRules.Proofs.ByteOrder
import FieldRules.Proofs.FieldsApart
import FieldRules.Proofs.Registered

/-! A registry lists what it finds.

Rules are found by their keys, and listed by their keys or by the names in their entries.
That these are the same is no matter of course: it holds because every entry is under its
own name and there is one entry a name (`Registry.Kept`), and because every change keeps
it so, also a load that stops half way (`Registry.kept_load`).

`Registry.agrees_after`: whatever was done to a registry, all ways to look at it agree. -/
namespace FieldRules.Registry

/-! ### Changes -/

inductive Change where
  | register (rule : RegisteredRule)
  | remove (name : String)
  | load (custom : Dict CustomRule)
  | disable (toggles : Dict Bool)

/-- A load that fails leaves the rules before the one that cannot be defined. -/
def Change.apply (r : Registry) : Change → Registry
  | register rule => r.register rule
  | remove name => r.remove name
  | load custom => (r.load custom).1
  | disable toggles => r.disable toggles

def after (r : Registry) (changes : List Change) : Registry := changes.foldl Change.apply r

/-! ### What every change keeps -/

/-- Every entry is under its own name, and there is one entry a name. -/
structure Kept (r : Registry) : Prop where
  own : ∀ entry ∈ r.rules, entry.2.name = entry.1
  ascending : Dict.Ascending r.rules

variable {r : Registry}

theorem kept_empty : empty.Kept := ⟨List.forall_mem_nil _, .nil⟩

theorem kept_register (h : r.Kept) (rule : RegisteredRule) : (r.register rule).Kept := by
  refine ⟨fun entry hentry => ?_, Dict.ascending_put h.ascending ..⟩
  rcases Dict.mem_put hentry with rfl | hold
  · rfl
  · exact h.own entry hold

theorem kept_filter (h : r.Kept) (keep : String × RegisteredRule → Bool) :
    Kept ⟨r.rules.filter keep⟩ :=
  ⟨fun entry hentry => h.own entry (List.mem_filter.mp hentry).1,
    Dict.ascending_filter h.ascending keep⟩

theorem kept_remove (h : r.Kept) (name : String) : (r.remove name).Kept := kept_filter h _

theorem kept_disable (h : r.Kept) (toggles : Dict Bool) : (r.disable toggles).Kept := by
  have hrules : r.disable toggles = ⟨(r.disable toggles).rules⟩ := rfl
  rw [hrules, rules_disable]
  exact kept_filter h _

/-- To define a rule is to register it, under the name that it has, which is new. -/
theorem exists_register_of_define {written : String} {definition : CustomRule} {r' : Registry}
    (h : r.define written definition = .ok r') :
    ∃ rule, r.contains rule.name = false ∧ r' = r.register rule := by
  unfold define at h
  split at h
  · cases h
  · split at h
    · cases h
    · rename_i hnew
      cases h
      exact ⟨_, Bool.not_eq_true _ ▸ hnew, rfl⟩

theorem kept_load (h : r.Kept) (custom : Dict CustomRule) : (r.load custom).1.Kept := by
  induction custom generalizing r with
  | nil => exact h
  | cons entry rest ih =>
    rw [load]
    split
    · exact h
    · rename_i hdefined
      obtain ⟨rule, -, rfl⟩ := exists_register_of_define hdefined
      exact ih (kept_register h rule)

theorem kept_apply (h : r.Kept) (change : Change) : (change.apply r).Kept := by
  cases change with
  | register rule => exact kept_register h rule
  | remove name => exact kept_remove h name
  | load custom => exact kept_load h custom
  | disable toggles => exact kept_disable h toggles

theorem kept_after (h : r.Kept) (changes : List Change) : (r.after changes).Kept := by
  induction changes generalizing r with
  | nil => exact h
  | cons change rest ih => exact ih (kept_apply h change)

theorem kept_builtins : builtins.Kept := by
  have hbuiltins : builtins = empty.after ((Builtin.all.map .ofBuiltin).map .register) := by
    rw [builtins_eq, after, List.foldl_map]
    rfl
  rw [hbuiltins]
  exact kept_after kept_empty _

/-! ### Ways to look at a registry -/

/-- Names and entries are the same ones in the same order, and to be found is to be listed.
Entries may come in any order: sorted by their keys or by their names they are listed so. -/
structure Agrees (r : Registry) : Prop where
  own : ∀ key rule, (key, rule) ∈ r.rules → rule.name = key
  ascending : r.names.Pairwise fun a b => Text.bytes a < Text.bytes b
  name_entries : r.entries.map RegisteredRule.name = r.names
  sorted : ∀ shown : Dict RegisteredRule, shown.Perm r.rules →
    (shown.map Prod.fst).mergeSort (fun a b => decide (a ≤ b)) = r.names ∧
      (shown.map Prod.snd).mergeSort (fun a b => decide (a.name ≤ b.name)) = r.entries
  size_eq : r.size = r.names.length
  isEmpty_iff : r.isEmpty = true ↔ r.size = 0
  found_iff : ∀ name, (r.get? name).isSome = true ↔ name ∈ r.names
  contains_iff : ∀ name, r.contains name = true ↔ name ∈ r.names
  lookup_iff : ∀ name, (r.lookup name).isSome = true ↔ name ∈ r.names
  lookup_of_found : ∀ name rule, r.get? name = some rule → r.lookup name = some rule.validator

/-- What comes in any order is listed in the only one that ascends. -/
theorem mergeSort_of_ascending {α : Type} (key : α → String) {items shown : List α}
    (h : items.Pairwise fun a b => key a < key b) (hshown : shown.Perm items) :
    shown.mergeSort (fun a b => decide (key a ≤ key b)) = items := by
  have hnodup := (hshown.map key).nodup_iff.mpr (Compilation.nodup_of_ascending h)
  exact Compilation.eq_of_perm_of_ascending (Compilation.ascending_byField hnodup) h
    ((Compilation.perm_byField key shown).trans hshown)

theorem Kept.name_entries (h : r.Kept) : r.entries.map RegisteredRule.name = r.names := by
  rw [entries, names, Dict.keys, List.map_map]
  exact List.map_congr_left h.own

theorem Kept.names_ascending (h : r.Kept) : r.names.Pairwise (· < ·) :=
  (Dict.ascending_iff_keys r.rules).mp h.ascending

theorem Kept.agrees (h : r.Kept) : r.Agrees := by
  have hfound : ∀ name, (r.get? name).isSome = true ↔ name ∈ r.names := by
    intro name
    rw [mem_names_iff, Option.isSome_iff_exists]
  have hentries : r.entries.Pairwise fun a b => a.name < b.name := by
    have hnames := h.names_ascending
    rwa [← h.name_entries, List.pairwise_map] at hnames
  exact {
    own := fun key rule hmem => h.own (key, rule) hmem
    ascending := h.names_ascending.imp fun hlt => (Text.bytes_lt_iff ..).mpr hlt
    name_entries := h.name_entries
    sorted := fun shown hshown =>
      ⟨mergeSort_of_ascending id h.names_ascending (hshown.map Prod.fst),
        mergeSort_of_ascending RegisteredRule.name hentries (hshown.map Prod.snd)⟩
    size_eq := (List.length_map Prod.fst).symm
    isEmpty_iff := by rw [isEmpty, size, List.isEmpty_iff_length_eq_zero]
    found_iff := hfound
    contains_iff := hfound
    lookup_iff := fun name => by rw [lookup, Option.isSome_map, hfound]
    lookup_of_found := fun name rule hrule => by rw [lookup, hrule, Option.map_some] }

/-- **All ways to look at a registry agree**, whatever was done to it, from nothing or from
the built-in rules on. -/
theorem agrees_after (changes : List Change) :
    (empty.after changes).Agrees ∧ (builtins.after changes).Agrees :=
  ⟨(kept_after kept_empty changes).agrees, (kept_after kept_builtins changes).agrees⟩

/-- The second spelling of one name stops the load, and the first rule stays. -/
example : (empty.after [.load [("a_b", ⟨"x", none⟩), ("aB", ⟨"y", none⟩), ("c", ⟨"z", none⟩)]]).names =
    ["aB"] := by
  decide +kernel

end FieldRules.Registry
