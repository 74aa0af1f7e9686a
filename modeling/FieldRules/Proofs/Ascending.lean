import FieldRules.Json.Reader
import FieldRules.Proofs.Closure

/-! Dictionaries and documents in the order of their keys.

A dictionary with ascending keys is known by what it holds under each key
(`Dict.eq_of_get?_eq`). Putting an entry in keeps the order, and collecting entries
makes it, so the entries of a document that was read ascend everywhere in it
(`Json.Ordered`, `Json.ordered_of_ofText?`), and they still do after a write
(`Json.ordered_write`). -/
namespace FieldRules

/-- Sorting by a key puts the keys in order. -/
theorem pairwise_mergeSort_key {α : Type} (key : α → String) (items : List α) :
    (items.mergeSort fun a b => decide (key a ≤ key b)).Pairwise fun a b => key a ≤ key b := by
  have htrans : ∀ a b c : α, decide (key a ≤ key b) = true → decide (key b ≤ key c) = true →
      decide (key a ≤ key c) = true := fun a b c hab hbc =>
    decide_eq_true (String.le_trans (of_decide_eq_true hab) (of_decide_eq_true hbc))
  have htotal : ∀ a b : α, (decide (key a ≤ key b) || decide (key b ≤ key a)) = true :=
    fun a b => by simpa using String.le_total (key a) (key b)
  exact (List.pairwise_mergeSort htrans htotal items).imp of_decide_eq_true

namespace Dict
variable {α : Type}

theorem ascending_iff_keys (d : Dict α) : Ascending d ↔ (keys d).Pairwise (· < ·) :=
  List.pairwise_map.symm

theorem nodup_keys_of_ascending {d : Dict α} (h : Ascending d) : (keys d).Nodup := by
  apply ((ascending_iff_keys d).mp h).imp
  intro a b hlt he
  subst he
  exact String.lt_irrefl a hlt

theorem nodup_of_ascending {d : Dict α} (h : Ascending d) : d.Nodup := by
  apply h.imp
  intro a b hlt he
  subst he
  exact String.lt_irrefl a.1 hlt

/-! ### Entries by key -/

theorem mem_of_get?_eq_some {d : Dict α} {key : String} {value : α}
    (h : get? d key = some value) : (key, value) ∈ d := by
  induction d with
  | nil => cases h
  | cons entry rest ih =>
    obtain ⟨name, old⟩ := entry
    by_cases hn : name = key
    · rw [get?, if_pos hn] at h
      cases h
      rw [hn]
      exact List.mem_cons_self ..
    · rw [get?, if_neg hn] at h
      exact List.mem_cons_of_mem _ (ih h)

theorem get?_eq_some_of_mem {d : Dict α} (hd : (keys d).Nodup) {key : String} {value : α}
    (h : (key, value) ∈ d) : get? d key = some value := by
  induction d with
  | nil => cases h
  | cons entry rest ih =>
    obtain ⟨name, old⟩ := entry
    obtain ⟨hname, hrest⟩ := List.nodup_cons.mp hd
    rcases List.mem_cons.mp h with he | hr
    · cases he
      simp [get?]
    · have hn : name ≠ key := by
        rintro rfl
        exact hname (List.mem_map.mpr ⟨_, hr, rfl⟩)
      rw [get?, if_neg hn]
      exact ih hrest hr

theorem isSome_get?_of_mem {d : Dict α} {entry : String × α} (h : entry ∈ d) :
    (get? d entry.1).isSome = true := by
  induction d with
  | nil => cases h
  | cons first rest ih =>
    obtain ⟨name, old⟩ := first
    by_cases hn : name = entry.1
    · rw [get?, if_pos hn]
      rfl
    · have hne : entry ≠ (name, old) := fun he => hn (he ▸ rfl)
      rw [get?, if_neg hn]
      exact ih ((List.mem_cons.mp h).resolve_left hne)

theorem mem_iff_get? {d : Dict α} (hd : Ascending d) (key : String) (value : α) :
    (key, value) ∈ d ↔ get? d key = some value :=
  ⟨get?_eq_some_of_mem (nodup_keys_of_ascending hd), mem_of_get?_eq_some⟩

/-- An ascending dictionary is known by its values. -/
theorem eq_of_get?_eq {a b : Dict α} (ha : Ascending a) (hb : Ascending b)
    (h : ∀ key, get? a key = get? b key) : a = b := by
  have hmem : ∀ entry, entry ∈ a ↔ entry ∈ b := by
    rintro ⟨key, value⟩
    rw [mem_iff_get? ha, mem_iff_get? hb, h]
  have hperm : a.Perm b :=
    (List.perm_ext_iff_of_nodup (nodup_of_ascending ha) (nodup_of_ascending hb)).mpr hmem
  refine hperm.eq_of_pairwise (fun x y _ _ hxy hyx => ?_) ha hb
  exact absurd hyx (String.lt_asymm hxy)

/-! ### Putting an entry in -/

theorem keys_replace (d : Dict α) (key : String) (value : α) :
    keys (replace d key value) = keys d := by
  induction d with
  | nil => rfl
  | cons entry rest ih =>
    obtain ⟨name, old⟩ := entry
    by_cases hn : name = key
    · simp [replace, keys, hn]
    · simpa [replace, keys, hn] using ih

theorem perm_place (d : Dict α) (key : String) (value : α) :
    (place d key value).Perm ((key, value) :: d) := by
  induction d with
  | nil => exact .refl _
  | cons entry rest ih =>
    obtain ⟨name, old⟩ := entry
    by_cases hn : key < name
    · simp [place, hn]
    · rw [place, if_neg hn]
      exact (ih.cons _).trans (.swap ..)

theorem ascending_place {d : Dict α} (h : Ascending d) {key : String}
    (hc : contains d key = false) (value : α) : Ascending (place d key value) := by
  induction d with
  | nil => exact List.pairwise_singleton ..
  | cons entry rest ih =>
    obtain ⟨name, old⟩ := entry
    obtain ⟨hname, hrest⟩ := List.pairwise_cons.mp h
    by_cases hlt : key < name
    · rw [place, if_pos hlt]
      refine List.pairwise_cons.mpr ⟨?_, h⟩
      intro later hlater
      rcases List.mem_cons.mp hlater with rfl | hr
      · exact hlt
      · exact String.lt_trans hlt (hname later hr)
    · have hne : name ≠ key := by
        intro he
        simp [contains, get?, he] at hc
      have hgt : name < key := by
        rcases String.le_total name key with hle | hle
        · exact String.not_le.mp fun hge => hne (String.le_antisymm hle hge)
        · exact absurd (String.le_antisymm hle (String.not_lt.mp hlt)) hne.symm
      have hcr : contains rest key = false := by simpa [contains, get?, hne] using hc
      rw [place, if_neg hlt]
      refine List.pairwise_cons.mpr ⟨?_, ih hrest hcr⟩
      intro later hlater
      rcases List.mem_cons.mp ((perm_place rest key value).mem_iff.mp hlater) with rfl | hr
      · exact hgt
      · exact hname later hr

theorem ascending_put {d : Dict α} (h : Ascending d) (key : String) (value : α) :
    Ascending (put d key value) := by
  unfold put
  split
  · rw [ascending_iff_keys, keys_replace, ← ascending_iff_keys]
    exact h
  · exact ascending_place h (by simpa using ‹¬contains d key = true›) value

theorem mem_replace {d : Dict α} {key : String} {value : α} {entry : String × α}
    (h : entry ∈ replace d key value) : entry = (key, value) ∨ entry ∈ d := by
  induction d with
  | nil => cases h
  | cons first rest ih =>
    obtain ⟨name, old⟩ := first
    by_cases hn : name = key
    · rw [replace, if_pos hn] at h
      rcases List.mem_cons.mp h with he | hr
      · exact .inl he
      · exact .inr (List.mem_cons_of_mem _ hr)
    · rw [replace, if_neg hn] at h
      rcases List.mem_cons.mp h with rfl | hr
      · exact .inr (List.mem_cons_self ..)
      · exact (ih hr).imp_right (List.mem_cons_of_mem _)

theorem mem_put {d : Dict α} {key : String} {value : α} {entry : String × α}
    (h : entry ∈ put d key value) : entry = (key, value) ∨ entry ∈ d := by
  unfold put at h
  split at h
  · exact mem_replace h
  · exact List.mem_cons.mp ((perm_place d key value).mem_iff.mp h)

/-- Writes under two keys can be interchanged. -/
theorem put_comm {d : Dict α} (h : Ascending d) {a b : String} (hne : a ≠ b) (x y : α) :
    put (put d a x) b y = put (put d b y) a x := by
  apply eq_of_get?_eq (ascending_put (ascending_put h ..) ..) (ascending_put (ascending_put h ..) ..)
  intro key
  by_cases ha : a = key
  · subst ha
    rw [get?_put_of_ne _ hne.symm, get?_put_self, get?_put_self]
  · by_cases hb : b = key
    · subst hb
      rw [get?_put_self, get?_put_of_ne _ hne, get?_put_self]
    · rw [get?_put_of_ne _ hb, get?_put_of_ne _ ha, get?_put_of_ne _ ha, get?_put_of_ne _ hb]

/-- Leaving entries out keeps the order. -/
theorem ascending_filter {d : Dict α} (h : Ascending d) (keep : String × α → Bool) :
    Ascending (d.filter keep) :=
  List.Pairwise.filter keep h

/-! ### Collecting entries -/

theorem sublist_lastOfEach (d : Dict α) : (lastOfEach d).Sublist d := by
  induction d using lastOfEach.induct with
  | case1 first second rest heq ih =>
    rw [lastOfEach, if_pos heq]
    exact ih.cons _
  | case2 first second rest hne ih =>
    rw [lastOfEach, if_neg hne]
    exact ih.cons_cons _
  | case3 short hshort =>
    rcases short with _ | ⟨first, _ | ⟨second, rest⟩⟩
    · exact .refl _
    · exact .refl _
    · exact absurd rfl (hshort first second rest)

theorem ascending_lastOfEach {d : Dict α} (h : d.Pairwise fun a b => a.1 ≤ b.1) :
    Ascending (lastOfEach d) := by
  induction d using lastOfEach.induct with
  | case1 first second rest heq ih =>
    rw [lastOfEach, if_pos heq]
    exact ih (List.pairwise_cons.mp h).2
  | case2 first second rest hne ih =>
    obtain ⟨hfirst, hrest⟩ := List.pairwise_cons.mp h
    rw [lastOfEach, if_neg hne]
    refine List.pairwise_cons.mpr ⟨?_, ih hrest⟩
    intro later hlater
    have hle := hfirst second (List.mem_cons_self ..)
    have hlt : first.1 < second.1 :=
      String.not_le.mp fun hge => hne (String.le_antisymm hle hge)
    rcases List.mem_cons.mp ((sublist_lastOfEach _).mem hlater) with rfl | hr
    · exact hlt
    · have hge := (List.pairwise_cons.mp hrest).1 later hr
      exact String.not_le.mp fun hback => String.not_le.mpr hlt (String.le_trans hge hback)
  | case3 short hshort =>
    rcases short with _ | ⟨first, _ | ⟨second, rest⟩⟩
    · exact .nil
    · exact List.pairwise_singleton ..
    · exact absurd rfl (hshort first second rest)

theorem ascending_ofList (entries : List (String × α)) : Ascending (ofList entries) :=
  ascending_lastOfEach (pairwise_mergeSort_key Prod.fst entries)

theorem mem_ofList {entries : List (String × α)} {entry : String × α}
    (h : entry ∈ ofList entries) : entry ∈ entries :=
  (List.mergeSort_perm ..).mem_iff.mp ((sublist_lastOfEach _).mem h)

theorem ofList_of_ascending {d : Dict α} (h : Ascending d) : ofList d = d := by
  have hsorted : d.Pairwise fun a b => decide (a.1 ≤ b.1) = true := by
    refine h.imp fun {a b} hlt => decide_eq_true ?_
    exact String.not_lt.mp (String.lt_asymm hlt)
  rw [ofList, List.mergeSort_of_pairwise hsorted,
    lastOfEach_of_nodup d (nodup_keys_of_ascending h)]

end Dict

namespace Json

/-- Everywhere in a document the entries of an object ascend. -/
inductive Ordered : Json → Prop where
  | null : Ordered null
  | bool (value : Bool) : Ordered (bool value)
  | number (value : Number) : Ordered (number value)
  | string (value : String) : Ordered (string value)
  | array {items : List Json} : (∀ item ∈ items, Ordered item) → Ordered (array items)
  | object {entries : List (String × Json)} : Dict.Ascending entries →
      (∀ entry ∈ entries, Ordered entry.2) → Ordered (object entries)

theorem ordered_array {items : List Json} :
    Ordered (array items) ↔ ∀ item ∈ items, Ordered item :=
  ⟨fun | .array h => h, .array⟩

theorem ordered_object {entries : List (String × Json)} :
    Ordered (object entries) ↔
      Dict.Ascending entries ∧ ∀ entry ∈ entries, Ordered entry.2 :=
  ⟨fun | .object h hvalues => ⟨h, hvalues⟩, fun h => .object h.1 h.2⟩

/-! ### Writing -/

theorem ordered_put {entries : List (String × Json)} (h : Ordered (object entries)) (name : String)
    {v : Json} (hv : Ordered v) : Ordered (object (Dict.put entries name v)) := by
  obtain ⟨hentries, hvalues⟩ := ordered_object.mp h
  refine .object (Dict.ascending_put hentries name v) fun entry hentry => ?_
  rcases Dict.mem_put hentry with rfl | hold
  · exact hv
  · exact hvalues entry hold

theorem ordered_byPosition {items : List Json} (h : Ordered (array items)) :
    Ordered (object (byPosition items)) := by
  refine .object (Dict.ascending_ofList _) fun entry hentry => ?_
  obtain ⟨⟨item, position⟩, hitem, rfl⟩ := List.mem_map.mp (Dict.mem_ofList hentry)
  exact ordered_array.mp h item (List.fst_mem_of_mem_zipIdx hitem)

theorem ordered_set {items : List Json} (h : Ordered (array items)) {v : Json} (hv : Ordered v)
    (position : Nat) : Ordered (array ((padded items position).set position v)) := by
  refine .array fun item hitem => ?_
  rcases List.mem_or_eq_of_mem_set hitem with hpadded | rfl
  · rcases List.mem_append.mp hpadded with hold | hnull
    · exact ordered_array.mp h item hold
    · rw [List.eq_of_mem_replicate hnull]
      exact .null
  · exact hv

theorem closed_ordered : Closed Ordered where
  null := .null
  emptyObject := .object .nil (List.forall_mem_nil _)
  emptyArray := .array (List.forall_mem_nil _)
  entry h hentry := (ordered_object.mp h).2 _ (Dict.mem_of_get?_eq_some hentry)
  element h hitem := ordered_array.mp h _ (List.mem_of_getElem? hitem)
  put name h hv := ordered_put h name hv
  set _ h hv := ordered_set h hv _
  byPosition h := ordered_byPosition h

/-- A write keeps a document ordered. -/
theorem ordered_write (steps : List Step) {v doc : Json} (hv : Ordered v) (h : Ordered doc) :
    Ordered (write steps v doc) :=
  closed_ordered.write steps hv h

/-! ### Reading -/

section
variable {α : Type} {item : Reader α} {P : α → Prop}
  (h : ∀ text x rest, item text = some (x, rest) → P x) (close : Char)
include h

theorem forall_mem_more (fuel : Nat) (done : List α) (hdone : ∀ x ∈ done, P x)
    (text : List Char) (items : List α) (rest : List Char)
    (hmore : more item close fuel done text = some (items, rest)) : ∀ x ∈ items, P x := by
  induction fuel generalizing done text with
  | zero => cases hmore
  | succ fuel ih =>
    rw [more] at hmore
    split at hmore
    · cases hmore
    · split at hmore
      · cases hmore
        simpa using hdone
      · split at hmore
        · split at hmore
          · rename_i x later hitem
            exact ih (x :: done) (List.forall_mem_cons.mpr ⟨h _ _ _ hitem, hdone⟩) later hmore
          · cases hmore
        · cases hmore

theorem forall_mem_bracketed (text : List Char) (items : List α) (rest : List Char)
    (hitems : bracketed item close text = some (items, rest)) : ∀ x ∈ items, P x := by
  rw [bracketed] at hitems
  split at hitems
  · cases hitems
  · split at hitems
    · cases hitems
      exact List.forall_mem_nil _
    · split at hitems
      · rename_i x later hitem
        have hfirst : ∀ y ∈ [x], P y := by simpa using h _ _ _ hitem
        exact forall_mem_more h close _ [x] hfirst _ _ _ hitems
      · cases hitems

end

theorem ordered_of_entry {inner : Reader Json}
    (h : ∀ text v rest, inner text = some (v, rest) → Ordered v) (text : List Char)
    (e : String × Json) (rest : List Char) (he : entry inner text = some (e, rest)) :
    Ordered e.2 := by
  unfold entry at he
  split at he
  · split at he
    · split at he
      · obtain ⟨⟨v, later⟩, hv, heq⟩ := Option.map_eq_some_iff.mp he
        cases heq
        exact h _ _ _ hv
      · cases he
    · cases he
  · cases he

theorem ordered_of_valueOver {inner : Option (Reader Json)}
    (h : ∀ read ∈ inner, ∀ text v rest, read text = some (v, rest) → Ordered v)
    (text : List Char) (v : Json) (rest : List Char)
    (hv : valueOver inner text = some (v, rest)) : Ordered v := by
  unfold valueOver at hv
  split at hv
  · obtain ⟨_, -, heq⟩ := Option.map_eq_some_iff.mp hv
    cases heq
    exact .string _
  · obtain ⟨read, hread, hmap⟩ := Option.bind_eq_some_iff.mp hv
    obtain ⟨⟨items, later⟩, hitems, heq⟩ := Option.map_eq_some_iff.mp hmap
    cases heq
    exact .array (forall_mem_bracketed (h read hread) _ _ _ _ hitems)
  · obtain ⟨read, hread, hmap⟩ := Option.bind_eq_some_iff.mp hv
    obtain ⟨⟨entries, later⟩, hentries, heq⟩ := Option.map_eq_some_iff.mp hmap
    cases heq
    have hvalues := forall_mem_bracketed (P := fun e => Ordered e.2)
      (ordered_of_entry (h read hread)) _ _ _ _ hentries
    exact .object (Dict.ascending_ofList entries) fun e he => hvalues e (Dict.mem_ofList he)
  · cases hv
    exact .null
  · cases hv
    exact .bool true
  · cases hv
    exact .bool false
  · obtain ⟨⟨n, later⟩, -, heq⟩ := Option.map_eq_some_iff.mp hv
    cases heq
    exact .number n

theorem ordered_of_value (levels : Nat) (text : List Char) (v : Json) (rest : List Char)
    (h : value levels text = some (v, rest)) : Ordered v := by
  induction levels generalizing text v rest with
  | zero =>
    have hread : ∀ read ∈ (none : Option (Reader Json)), ∀ text v rest,
        read text = some (v, rest) → Ordered v := by
      intro read hread
      cases hread
    exact ordered_of_valueOver hread text v rest h
  | succ levels ih =>
    have hread : ∀ read ∈ some (value levels), ∀ text v rest, read text = some (v, rest) →
        Ordered v := by
      intro read hread
      cases hread
      exact ih
    exact ordered_of_valueOver hread text v rest h

/-- A document that was read is ordered. -/
theorem ordered_of_ofText? {text : String} {v : Json} (h : ofText? text = some v) :
    Ordered v := by
  rw [ofText?, ofChars?] at h
  split at h
  · rename_i w rest hvalue
    split at h
    · cases h
      exact ordered_of_value nestingLimit _ _ _ hvalue
    · cases h
  · cases h

end Json
end FieldRules
