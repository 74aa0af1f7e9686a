import FieldRules.Proofs.Ascending
import FieldRules.Proofs.FewDigits
import Mathlib.Data.List.Forall2

/-! What is read of a document that was printed.

Nothing of a document is lost but at two places. A reader stops at arrays and objects that
nest too deep (`Json.nesting`), and of a double that it scales it can get another one
(`Number.Settled`). `Json.reread?` says of any document what a reader gets of it; it is the
document as a reader gives it (`Json.asRead`) if every number in it is settled
(`Json.Settled`), and the document itself if it has the order of one that was read
(`Json.reread?_eq_some_iff`).

Integers are settled, and doubles of few digits (`Json.settled_of_modest`), and writes make no
numbers of their own (`Json.closed_numbers`). -/
namespace FieldRules

/-! ### Lists -/

section
variable {α β : Type} {read : α → Option β} {items : List α}

theorem mapM_eq_some {meaning : α → β} (h : ∀ x ∈ items, read x = some (meaning x)) :
    items.mapM read = some (items.map meaning) := by
  induction items with
  | nil => rfl
  | cons x others ih =>
    obtain ⟨hx, hothers⟩ := List.forall_mem_cons.mp h
    simp [hx, ih hothers]

theorem mapM_eq_none {x : α} (hx : x ∈ items) (h : read x = none) : items.mapM read = none := by
  induction items with
  | nil => cases hx
  | cons first others ih =>
    rw [List.mapM_cons]
    rcases List.mem_cons.mp hx with rfl | hothers
    · rw [h]
      rfl
    · rw [ih hothers]
      cases read first <;> rfl

theorem forall₂_of_mapM {results : List β} (h : items.mapM read = some results) :
    List.Forall₂ (fun x y => read x = some y) items results := by
  induction items generalizing results with
  | nil =>
    cases h
    exact .nil
  | cons x others ih =>
    rw [List.mapM_cons] at h
    obtain ⟨y, hy, hrest⟩ := Option.bind_eq_some_iff.mp h
    obtain ⟨ys, hys, hresults⟩ := Option.bind_eq_some_iff.mp hrest
    cases hresults
    exact .cons hy (ih hys)

end

namespace Json

/-- Induction on documents: of an array or an object, on what it holds. -/
theorem parts_induction {motive : Json → Prop} (null : motive null)
    (bool : ∀ b, motive (bool b)) (number : ∀ n, motive (number n))
    (string : ∀ s, motive (string s))
    (array : ∀ items, (∀ item ∈ items, motive item) → motive (array items))
    (object : ∀ entries, (∀ entry ∈ entries, motive entry.2) → motive (object entries))
    (v : Json) : motive v :=
  @Json.rec motive (fun items => ∀ item ∈ items, motive item)
    (fun entries => ∀ entry ∈ entries, motive entry.2) (fun entry => motive entry.2)
    null bool number string array object
    (List.forall_mem_nil _) (fun _ _ hitem hothers => List.forall_mem_cons.mpr ⟨hitem, hothers⟩)
    (List.forall_mem_nil _) (fun _ _ hentry hothers => List.forall_mem_cons.mpr ⟨hentry, hothers⟩)
    (fun _ _ h => h) v

/-! ### Nesting -/

mutual

/-- How many arrays and objects stand one in the other. -/
def nesting : Json → Nat
  | array items => itemsNesting items + 1
  | object entries => entriesNesting entries + 1
  | _ => 0

def itemsNesting : List Json → Nat
  | [] => 0
  | item :: others => max (nesting item) (itemsNesting others)

def entriesNesting : List (String × Json) → Nat
  | [] => 0
  | (_, v) :: others => max (nesting v) (entriesNesting others)

end

theorem itemsNesting_le {items : List Json} {n : Nat} :
    itemsNesting items ≤ n ↔ ∀ item ∈ items, item.nesting ≤ n := by
  induction items with
  | nil => simp [itemsNesting]
  | cons item others ih => rw [itemsNesting, Nat.max_le, ih, List.forall_mem_cons]

theorem entriesNesting_le {entries : List (String × Json)} {n : Nat} :
    entriesNesting entries ≤ n ↔ ∀ entry ∈ entries, entry.2.nesting ≤ n := by
  induction entries with
  | nil => simp [entriesNesting]
  | cons entry others ih =>
    obtain ⟨key, v⟩ := entry
    rw [entriesNesting, Nat.max_le, ih, List.forall_mem_cons]

/-! ### As a reader gives it -/

mutual

/-- A document as a reader gives it: the entries of an object become a dictionary. -/
def asRead : Json → Json
  | array items => array (itemsAsRead items)
  | object entries => object (Dict.ofList (entriesAsRead entries))
  | v => v

def itemsAsRead : List Json → List Json
  | [] => []
  | item :: others => asRead item :: itemsAsRead others

def entriesAsRead : List (String × Json) → List (String × Json)
  | [] => []
  | (key, v) :: others => (key, asRead v) :: entriesAsRead others

end

theorem itemsAsRead_eq (items : List Json) : itemsAsRead items = items.map asRead := by
  induction items with
  | nil => rfl
  | cons item others ih => rw [itemsAsRead, ih, List.map_cons]

theorem entriesAsRead_eq (entries : List (String × Json)) :
    entriesAsRead entries = entries.map fun entry => (entry.1, entry.2.asRead) := by
  induction entries with
  | nil => rfl
  | cons entry others ih => rw [entriesAsRead, ih, List.map_cons]

/-- What was read once is read again as it is. -/
theorem asRead_of_ordered {v : Json} (h : v.Ordered) : v.asRead = v := by
  induction h with
  | array _ ih => rw [asRead, itemsAsRead_eq, List.map_congr_left ih, List.map_id']
  | @object entries hentries _ ih =>
    have hsame : entries.map (fun entry => (entry.1, entry.2.asRead)) = entries := by
      conv_rhs => rw [← List.map_id' entries]
      exact List.map_congr_left fun entry hentry => Prod.ext rfl (ih entry hentry)
    rw [asRead, entriesAsRead_eq, hsame, Dict.ofList_of_ascending hentries]
  | _ => rfl

/-! ### Numbers in a document -/

/-- Every number in a document has the property. -/
inductive Numbers (P : Number → Prop) : Json → Prop where
  | null : Numbers P null
  | bool (value : Bool) : Numbers P (bool value)
  | number {value : Number} : P value → Numbers P (number value)
  | string (value : String) : Numbers P (string value)
  | array {items : List Json} : (∀ item ∈ items, Numbers P item) → Numbers P (array items)
  | object {entries : List (String × Json)} : (∀ entry ∈ entries, Numbers P entry.2) →
      Numbers P (object entries)

section
variable {P : Number → Prop}

@[simp] theorem numbers_array {items : List Json} :
    Numbers P (array items) ↔ ∀ item ∈ items, Numbers P item :=
  ⟨fun | .array h => h, .array⟩

@[simp] theorem numbers_object {entries : List (String × Json)} :
    Numbers P (object entries) ↔ ∀ entry ∈ entries, Numbers P entry.2 :=
  ⟨fun | .object h => h, .object⟩

theorem Numbers.imp {Q : Number → Prop} (h : ∀ n, P n → Q n) {v : Json} (hv : v.Numbers P) :
    v.Numbers Q := by
  induction hv with
  | null => exact .null
  | bool b => exact .bool b
  | number hn => exact .number (h _ hn)
  | string s => exact .string s
  | array _ ih => exact .array ih
  | object _ ih => exact .object ih

theorem closed_numbers : Closed (Numbers P) where
  null := .null
  emptyObject := .object (List.forall_mem_nil _)
  emptyArray := .array (List.forall_mem_nil _)
  entry h hentry := numbers_object.mp h _ (Dict.mem_of_get?_eq_some hentry)
  element h hitem := numbers_array.mp h _ (List.mem_of_getElem? hitem)
  put name h hv := by
    refine .object fun entry hentry => ?_
    rcases Dict.mem_put hentry with rfl | hold
    · exact hv
    · exact numbers_object.mp h entry hold
  set _ h hv := by
    refine .array fun item hitem => ?_
    rcases List.mem_or_eq_of_mem_set hitem with hpadded | rfl
    · rcases List.mem_append.mp hpadded with hold | hnull
      · exact numbers_array.mp h item hold
      · rw [List.eq_of_mem_replicate hnull]
        exact .null
    · exact hv
  byPosition h := by
    refine .object fun entry hentry => ?_
    obtain ⟨⟨item, position⟩, hitem, rfl⟩ := List.mem_map.mp (Dict.mem_ofList hentry)
    exact numbers_array.mp h item (List.fst_mem_of_mem_zipIdx hitem)

end

/-- Every number in a document is read from its text as that number. -/
abbrev Settled (v : Json) : Prop := v.Numbers Number.Settled

/-- Every number in a document is an integer or a modest double. -/
abbrev Modest (v : Json) : Prop := v.Numbers Number.Modest

theorem settled_of_modest {v : Json} (h : v.Modest) : v.Settled :=
  h.imp fun _ => Number.settled_of_modest

theorem settled_ofNat (n : Nat) : (ofNat n).Settled := by
  unfold ofNat
  split
  · exact .number (Number.settled_integer (by assumption))
  · exact .null

/-! ### Read again -/

/-- What a reader gets of a document, if it gets `inner` of what an array or an object holds. -/
def rereadOver (inner : Option (Json → Option Json)) : Json → Option Json
  | number n => n.reread?.map number
  | array items => inner.bind fun inner => (items.mapM inner).map array
  | object entries => inner.bind fun inner =>
    (entries.mapM fun entry => (inner entry.2).map (entry.1, ·)).map
      fun read => object (Dict.ofList read)
  | v => some v

/-- What a reader gets of a document, that goes as many levels deep. -/
def reread? : Nat → Json → Option Json
  | 0 => rereadOver none
  | levels + 1 => rereadOver (some (reread? levels))

theorem reread?_number (levels : Nat) (n : Number) :
    reread? levels (number n) = n.reread?.map number := by
  cases levels <;> rfl

theorem reread?_array (levels : Nat) (items : List Json) :
    reread? (levels + 1) (array items) = (items.mapM (reread? levels)).map array := rfl

theorem reread?_object (levels : Nat) (entries : List (String × Json)) :
    reread? (levels + 1) (object entries) =
      (entries.mapM fun entry => (reread? levels entry.2).map (entry.1, ·)).map
        fun read => object (Dict.ofList read) := rfl

theorem reread?_of_lt {levels : Nat} {v : Json} (h : levels < v.nesting) :
    reread? levels v = none := by
  induction v using parts_induction generalizing levels with
  | array items ih =>
    cases levels with
    | zero => rfl
    | succ levels =>
      rw [nesting, Nat.add_lt_add_iff_right, ← Nat.not_le, itemsNesting_le] at h
      push Not at h
      obtain ⟨item, hitem, hdeep⟩ := h
      rw [reread?_array, mapM_eq_none hitem (ih item hitem hdeep), Option.map_none]
  | object entries ih =>
    cases levels with
    | zero => rfl
    | succ levels =>
      rw [nesting, Nat.add_lt_add_iff_right, ← Nat.not_le, entriesNesting_le] at h
      push Not at h
      obtain ⟨entry, hentry, hdeep⟩ := h
      rw [reread?_object, mapM_eq_none hentry (by rw [ih entry hentry hdeep, Option.map_none]),
        Option.map_none]
  | _ => exact absurd h (Nat.not_lt_zero levels)

theorem reread?_of_settled {levels : Nat} {v : Json} (h : v.nesting ≤ levels)
    (hv : v.Settled) : reread? levels v = some v.asRead := by
  induction hv generalizing levels with
  | null => cases levels <;> rfl
  | bool b => cases levels <;> rfl
  | string s => cases levels <;> rfl
  | number hn =>
    rw [reread?_number, hn]
    rfl
  | @array items _ ih =>
    obtain ⟨levels, rfl⟩ := Nat.exists_eq_succ_of_ne_zero (Nat.ne_of_gt (Nat.lt_of_lt_of_le
      (Nat.succ_pos _) h))
    have hitems := itemsNesting_le.mp (Nat.le_of_succ_le_succ h)
    rw [reread?_array, mapM_eq_some fun item hitem => ih item hitem (hitems item hitem), asRead,
      itemsAsRead_eq, Option.map_some]
  | @object entries _ ih =>
    obtain ⟨levels, rfl⟩ := Nat.exists_eq_succ_of_ne_zero (Nat.ne_of_gt (Nat.lt_of_lt_of_le
      (Nat.succ_pos _) h))
    have hentries := entriesNesting_le.mp (Nat.le_of_succ_le_succ h)
    have hread : ∀ entry ∈ entries, (reread? levels entry.2).map (entry.1, ·) =
        some (entry.1, entry.2.asRead) := fun entry hentry => by
      rw [ih entry hentry (hentries entry hentry), Option.map_some]
    rw [reread?_object, mapM_eq_some hread, asRead, entriesAsRead_eq, Option.map_some]

/-- Of what was read again without a change every number is settled. -/
theorem settled_of_reread? {levels : Nat} {v : Json} (hv : v.Ordered)
    (h : reread? levels v = some v) : v.Settled := by
  induction hv generalizing levels with
  | null => exact .null
  | bool b => exact .bool b
  | string s => exact .string s
  | number n =>
    rw [reread?_number] at h
    obtain ⟨read, hread, hsame⟩ := Option.map_eq_some_iff.mp h
    cases hsame
    exact .number hread
  | array _ ih =>
    cases levels with
    | zero => cases h
    | succ levels =>
      rw [reread?_array] at h
      obtain ⟨read, hread, hsame⟩ := Option.map_eq_some_iff.mp h
      cases hsame
      exact .array fun item hitem =>
        ih item hitem (List.forall₂_same.mp (forall₂_of_mapM hread) item hitem)
  | @object entries hentries _ ih =>
    cases levels with
    | zero => cases h
    | succ levels =>
      rw [reread?_object] at h
      obtain ⟨read, hread, hsame⟩ := Option.map_eq_some_iff.mp h
      have hparts := forall₂_of_mapM hread
      -- The entries are read in their order, and so they are what was put in order.
      have hkeys : Dict.keys entries = Dict.keys read := by
        rw [← List.forall₂_eq_eq_eq, Dict.keys, Dict.keys, List.forall₂_map_left_iff,
          List.forall₂_map_right_iff]
        refine hparts.imp fun entry _ hentry => ?_
        obtain ⟨_, _, rfl⟩ := Option.map_eq_some_iff.mp hentry
        rfl
      have hascending : Dict.Ascending read :=
        (Dict.ascending_iff_keys read).mpr (hkeys ▸ (Dict.ascending_iff_keys entries).mp hentries)
      rw [Dict.ofList_of_ascending hascending] at hsame
      cases hsame
      refine .object fun entry hentry => @ih entry hentry levels ?_
      obtain ⟨again, hagain, hsame⟩ :=
        Option.map_eq_some_iff.mp (List.forall₂_same.mp hparts entry hentry)
      exact hagain.trans (congrArg (fun read => some read.2) hsame)

/-- **Read again.** A reader gets a document with ordered entries as it is exactly if it goes
deep enough and every number is settled. -/
theorem reread?_eq_some_iff {levels : Nat} {v : Json} (hv : v.Ordered) :
    reread? levels v = some v ↔ v.nesting ≤ levels ∧ v.Settled := by
  refine ⟨fun h => ⟨Nat.not_lt.mp fun hdeep => ?_, settled_of_reread? hv h⟩, fun h => ?_⟩
  · rw [reread?_of_lt hdeep] at h
    cases h
  · rw [reread?_of_settled h.1 h.2, asRead_of_ordered hv]

end Json
end FieldRules
