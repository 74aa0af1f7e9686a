/-! What a map from names to values is.

A `Dict` is the list of its entries. Every operation that builds one leaves the
keys strictly ascending by code point (`Dict.Ascending`), so the order in which
entries are listed is the order of their names and nothing else. The laws of
reading after writing (`get?_put_self`, `get?_put_of_ne`, `put_put_self`) hold of
any list of entries, ascending or not. -/
namespace FieldRules

abbrev Dict (α : Type) := List (String × α)

namespace Dict
variable {α β : Type}

/-- The value of the first entry with the key. -/
def get? : Dict α → String → Option α
  | [], _ => none
  | (name, value) :: rest, key => if name = key then some value else get? rest key

def contains (d : Dict α) (key : String) : Bool := (get? d key).isSome

def keys (d : Dict α) : List String := d.map Prod.fst

/-- The first entry with the key takes the value; without one nothing changes. -/
def replace : Dict α → String → α → Dict α
  | [], _, _ => []
  | (name, old) :: rest, key, value =>
    if name = key then (key, value) :: rest else (name, old) :: replace rest key value

/-- A new entry, before the first one with a greater key. -/
def place : Dict α → String → α → Dict α
  | [], key, value => [(key, value)]
  | (name, old) :: rest, key, value =>
    if key < name then (key, value) :: (name, old) :: rest
    else (name, old) :: place rest key value

def put (d : Dict α) (key : String) (value : α) : Dict α :=
  if contains d key then replace d key value else place d key value

def erase (d : Dict α) (key : String) : Dict α := d.filter fun entry => entry.1 ≠ key

/-- Of neighbours with one key, the last. -/
def lastOfEach : Dict α → Dict α
  | first :: second :: rest =>
    if first.1 = second.1 then lastOfEach (second :: rest)
    else first :: lastOfEach (second :: rest)
  | short => short

/-- The dictionary of a list of entries in any order; of entries with one key the
last one counts. -/
def ofList (entries : List (String × α)) : Dict α :=
  lastOfEach (entries.mergeSort fun a b => decide (a.1 ≤ b.1))

def Ascending (d : Dict α) : Prop := d.Pairwise fun a b => a.1 < b.1

/-! ### Reading after writing -/

theorem get?_replace_of_ne (d : Dict α) {key other : String} (h : key ≠ other) (value : α) :
    get? (replace d key value) other = get? d other := by
  induction d with
  | nil => rfl
  | cons entry rest ih =>
    obtain ⟨name, old⟩ := entry
    by_cases hn : name = key
    · subst hn
      simp [replace, get?, h]
    · simp [replace, get?, hn, ih]

theorem get?_replace_self (d : Dict α) (key : String) (value : α) (h : contains d key = true) :
    get? (replace d key value) key = some value := by
  induction d with
  | nil => simp [contains, get?] at h
  | cons entry rest ih =>
    obtain ⟨name, old⟩ := entry
    by_cases hn : name = key
    · simp [replace, get?, hn]
    · have hr : contains rest key = true := by simpa [contains, get?, hn] using h
      simp [replace, get?, hn, ih hr]

theorem get?_place_of_ne (d : Dict α) {key other : String} (h : key ≠ other) (value : α) :
    get? (place d key value) other = get? d other := by
  induction d with
  | nil => simp [place, get?, h]
  | cons entry rest ih =>
    obtain ⟨name, old⟩ := entry
    by_cases hn : key < name
    · simp [place, get?, hn, h]
    · simp [place, get?, hn, ih]

theorem get?_place_self (d : Dict α) (key : String) (value : α) (h : contains d key = false) :
    get? (place d key value) key = some value := by
  induction d with
  | nil => simp [place, get?]
  | cons entry rest ih =>
    obtain ⟨name, old⟩ := entry
    have hn : name ≠ key := by
      intro he
      simp [contains, get?, he] at h
    have hr : contains rest key = false := by simpa [contains, get?, hn] using h
    by_cases hlt : key < name
    · simp [place, get?, hlt]
    · simp [place, get?, hlt, hn, ih hr]

@[simp] theorem get?_put_self (d : Dict α) (key : String) (value : α) :
    get? (put d key value) key = some value := by
  unfold put
  split
  · exact get?_replace_self d key value (by assumption)
  · exact get?_place_self d key value (by simpa using ‹¬contains d key = true›)

theorem get?_put_of_ne (d : Dict α) {key other : String} (h : key ≠ other) (value : α) :
    get? (put d key value) other = get? d other := by
  unfold put
  split
  · exact get?_replace_of_ne d h value
  · exact get?_place_of_ne d h value

theorem replace_replace (d : Dict α) (key : String) (a b : α) :
    replace (replace d key a) key b = replace d key b := by
  induction d with
  | nil => rfl
  | cons entry rest ih =>
    obtain ⟨name, old⟩ := entry
    by_cases hn : name = key
    · simp [replace, hn]
    · simp [replace, hn, ih]

theorem replace_place (d : Dict α) (key : String) (a b : α) (h : contains d key = false) :
    replace (place d key a) key b = place d key b := by
  induction d with
  | nil => simp [place, replace]
  | cons entry rest ih =>
    obtain ⟨name, old⟩ := entry
    have hn : name ≠ key := by
      intro he
      simp [contains, get?, he] at h
    have hr : contains rest key = false := by simpa [contains, get?, hn] using h
    by_cases hlt : key < name
    · simp [place, replace, hlt]
    · simp [place, replace, hlt, hn, ih hr]

/-- Of two writes at one key the second counts. -/
theorem put_put_self (d : Dict α) (key : String) (a b : α) :
    put (put d key a) key b = put d key b := by
  have hc : contains (put d key a) key = true := by simp [contains]
  rw [put, if_pos hc]
  unfold put
  split
  · exact replace_replace d key a b
  · exact replace_place d key a b (by simpa using ‹¬contains d key = true›)

theorem replace_of_get? {d : Dict α} {key : String} {value : α} (h : get? d key = some value) :
    replace d key value = d := by
  induction d with
  | nil => rfl
  | cons entry rest ih =>
    obtain ⟨name, old⟩ := entry
    by_cases hn : name = key
    · rw [get?, if_pos hn] at h
      cases h
      rw [replace, if_pos hn, hn]
    · rw [get?, if_neg hn] at h
      rw [replace, if_neg hn, ih h]

/-- What stands under a key can be put there again. -/
theorem put_of_get? {d : Dict α} {key : String} {value : α} (h : get? d key = some value) :
    put d key value = d := by
  have hc : contains d key = true := by rw [contains, h]; rfl
  rw [put, if_pos hc, replace_of_get? h]

/-! ### Values for values -/

theorem get?_map (f : α → β) (d : Dict α) (key : String) :
    get? (d.map fun entry => (entry.1, f entry.2)) key = (get? d key).map f := by
  induction d with
  | nil => rfl
  | cons entry rest ih =>
    rw [List.map_cons, get?, get?, ih]
    split <;> rfl

/-! ### Leaving entries out -/

theorem get?_filter (keep : String → Bool) (d : Dict α) (key : String) :
    get? (d.filter fun entry => keep entry.1) key = if keep key then get? d key else none := by
  induction d with
  | nil => simp [get?]
  | cons entry rest ih =>
    obtain ⟨name, value⟩ := entry
    by_cases hn : name = key
    · subst hn
      cases hk : keep name <;> simp [get?, hk, ih]
    · cases hk : keep name <;> simp [get?, hk, hn, ih]

theorem get?_erase_of_ne (d : Dict α) {key other : String} (h : other ≠ key) :
    get? (erase d key) other = get? d other := by
  rw [erase, get?_filter (fun name => name ≠ key) d other]
  simp [h]

/-! ### Entries in any order -/

theorem get?_eq_none_of_not_mem (d : Dict α) (key : String) (h : key ∉ keys d) :
    get? d key = none := by
  induction d with
  | nil => rfl
  | cons entry rest ih =>
    rw [keys, List.map_cons, List.mem_cons, not_or] at h
    rw [get?, if_neg fun he => h.1 he.symm, ih h.2]

/-- With one entry for each key, their order does not count. -/
theorem get?_perm {a b : Dict α} (p : a.Perm b) (h : (keys a).Nodup) (key : String) :
    get? a key = get? b key := by
  induction p with
  | nil => rfl
  | cons entry _ ih => rw [get?, get?, ih (List.nodup_cons.mp h).2]
  | swap first second rest =>
    have hne : second.1 ≠ first.1 := fun he =>
      (List.nodup_cons.mp h).1 (he ▸ List.mem_cons_self ..)
    by_cases hf : first.1 = key
    · have hs : second.1 ≠ key := fun he => hne (he.trans hf.symm)
      simp [get?, hf, hs]
    · simp [get?, hf]
  | trans pa _ iha ihb =>
    rw [iha h, ihb ((pa.map Prod.fst).nodup_iff.mp h)]

theorem lastOfEach_of_nodup (d : Dict α) (h : (keys d).Nodup) : lastOfEach d = d := by
  induction d using lastOfEach.induct with
  | case1 first second rest heq _ =>
    exact absurd (heq ▸ List.mem_cons_self ..) (List.nodup_cons.mp h).1
  | case2 first second rest hne ih =>
    rw [lastOfEach, if_neg hne, ih (List.nodup_cons.mp h).2]
  | case3 short hshort =>
    rcases short with _ | ⟨first, _ | ⟨second, rest⟩⟩
    · rfl
    · rfl
    · exact absurd rfl (hshort first second rest)

theorem get?_ofList (entries : List (String × α)) (h : (keys entries).Nodup) (key : String) :
    get? (ofList entries) key = get? entries key := by
  have hp := List.mergeSort_perm entries fun a b => decide (a.1 ≤ b.1)
  have hn := (hp.map Prod.fst).nodup_iff.mpr h
  rw [ofList, lastOfEach_of_nodup _ hn, get?_perm hp hn]

end Dict
end FieldRules
