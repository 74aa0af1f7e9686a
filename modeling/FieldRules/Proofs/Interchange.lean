import FieldRules.Proofs.Ascending
import FieldRules.Proofs.Building
import FieldRules.Proofs.ReadBack
import FieldRules.Proofs.Siblings

/-! Writes that can be made in any order.

Two walks are apart (`Step.Apart`) when they take the same steps up to a place and
there turn to two children of one kind of container: under two keys, or at two
positions that an array is padded to. As long as no key meets an array (`Json.Fits`),
which of them writes first makes no difference: the containers on their common way
are the same whoever makes them, and the padding is as long as the greater position
needs.

`setAll_of_apart`: so writes that are apart from each other make one document, in
which each of them can be read. -/
namespace FieldRules

namespace Step

/-- Two children of one kind of container. -/
inductive Beside : Step → Step → Prop where
  | keys {a b : String} : a ≠ b → Beside (.key a) (.key b)
  | indices {i j : Nat} : i ≠ j → i ≤ greatestPadding → j ≤ greatestPadding →
      Beside (.index i) (.index j)

/-- The same steps up to a place, and there, where both have one more, steps to two
children of one kind of container. -/
inductive Apart : List Step → List Step → Prop where
  | here {s t : Step} {p q : List Step} : Beside s t → Apart (s :: p) (t :: q)
  | later {s : Step} {p q : List Step} : Apart p q → Apart (s :: p) (s :: q)

theorem Beside.symm {s t : Step} (h : Beside s t) : Beside t s := by
  cases h with
  | keys hne => exact .keys hne.symm
  | indices hne hi hj => exact .indices hne.symm hj hi

theorem Apart.symm {p q : List Step} (h : Apart p q) : Apart q p := by
  induction h with
  | here hb => exact .here hb.symm
  | later _ ih => exact .later ih

end Step

namespace Json

/-! ### Elements of one array -/

/-- The array in which the value stands at the position. -/
def placed (items : List Json) (position : Nat) (v : Json) : List Json :=
  (padded items position).set position v

theorem length_placed (items : List Json) (position : Nat) (v : Json) :
    (placed items position v).length = max items.length (position + 1) := by
  rw [placed, List.length_set, padded, List.length_append, List.length_replicate]
  omega

theorem getElem?_placed_self (items : List Json) (position : Nat) (v : Json) :
    (placed items position v)[position]? = some v :=
  List.getElem?_set_self (length_padded items position)

/-- Beside the position there is what there was, or padding. -/
theorem getElem?_placed_of_ne (items : List Json) {position other : Nat} (h : position ≠ other)
    (v : Json) : (placed items position v)[other]? =
      if other < items.length then items[other]?
      else if other ≤ position then some null else none := by
  rw [placed, List.getElem?_set_ne h, padded]
  by_cases hlt : other < items.length
  · rw [if_pos hlt, List.getElem?_append_left hlt]
  · rw [if_neg hlt, List.getElem?_append_right (Nat.not_lt.mp hlt), List.getElem?_replicate]
    have hiff : other - items.length < position + 1 - items.length ↔ other ≤ position := by omega
    simp only [hiff]

theorem getD_placed_of_ne (items : List Json) {position other : Nat} (h : position ≠ other)
    (v : Json) : ((placed items position v)[other]?).getD null = (items[other]?).getD null := by
  rw [getElem?_placed_of_ne items h]
  by_cases hlt : other < items.length
  · rw [if_pos hlt]
  · rw [if_neg hlt, List.getElem?_eq_none (Nat.not_lt.mp hlt)]
    split <;> rfl

theorem placed_placed_self (items : List Json) (position : Nat) (v w : Json) :
    placed (placed items position v) position w = placed items position w := by
  apply List.ext_getElem?
  intro k
  by_cases hk : position = k
  · subst hk
    rw [getElem?_placed_self, getElem?_placed_self]
  · rw [getElem?_placed_of_ne _ hk, getElem?_placed_of_ne _ hk, length_placed,
      getElem?_placed_of_ne _ hk]
    grind

/-- The padding that one needs and the other does not is the same whoever comes first. -/
theorem placed_comm (items : List Json) {i j : Nat} (h : i ≠ j) (v w : Json) :
    placed (placed items i v) j w = placed (placed items j w) i v := by
  apply List.ext_getElem?
  intro k
  by_cases hi : i = k
  · subst hi
    rw [getElem?_placed_self, getElem?_placed_of_ne _ h.symm, getElem?_placed_self, length_placed,
      if_pos (by omega)]
  · by_cases hj : j = k
    · subst hj
      rw [getElem?_placed_self, getElem?_placed_of_ne _ h, getElem?_placed_self, length_placed,
        if_pos (by omega)]
    · rw [getElem?_placed_of_ne _ hj, getElem?_placed_of_ne _ hi, getElem?_placed_of_ne _ hi,
        getElem?_placed_of_ne _ hj, length_placed, length_placed]
      grind

theorem putChild_array_placed (items : List Json) {position : Nat} (h : position ≤ greatestPadding)
    (v : Json) : (array items).putChild (.index position) v = array (placed items position v) :=
  putChild_array_index items h v

/-! ### One step -/

/-- The step goes into the value as it is: no key meets an array, and objects have
their entries in order. -/
def Takes : Json → Step → Prop
  | array _, .key _ => False
  | object entries, _ => Dict.Ascending entries
  | _, _ => True

theorem reached_eq (doc : Json) (step : Step) :
    doc.reached step = (doc.child? step).getD null := at?_opened doc step

theorem object_or_array_or_scalar (doc : Json) :
    (∃ entries, doc = object entries) ∨ (∃ items, doc = array items) ∨
      doc.isContainer = false := by
  cases doc with
  | object entries => exact .inl ⟨entries, rfl⟩
  | array items => exact .inr (.inl ⟨items, rfl⟩)
  | _ => exact .inr (.inr rfl)

theorem takes_beside {s t : Step} (h : Step.Beside s t) (doc : Json) :
    doc.Takes s ↔ doc.Takes t := by
  cases h <;> cases doc <;> exact Iff.rfl

theorem not_respells_of_takes {doc : Json} {step : Step} (h : doc.Takes step) :
    ¬doc.respells step := by
  cases doc with
  | array items =>
    cases step with
    | key name => cases h
    | index position => exact id
  | _ => cases step <;> exact id

theorem reached_putChild_self {doc : Json} {step : Step} (h : ¬doc.respells step) (v : Json) :
    (doc.putChild step v).reached step = v := by
  rw [reached_eq, child?_putChild doc step v h, Option.getD_some]

theorem takes_putChild_index (items : List Json) (position : Nat) (v : Json) :
    ((array items).putChild (.index position) v).Takes (.index position) := by
  by_cases hpast : greatestPadding < position
  · rw [putChild_array_past items hpast]
    exact Dict.ascending_put (Dict.ascending_ofList _) position.repr v
  · rw [putChild_array_index items (Nat.not_lt.mp hpast)]
    trivial

theorem takes_putChild_self {doc : Json} {step : Step} (h : doc.Takes step) (v : Json) :
    (doc.putChild step v).Takes step := by
  rcases object_or_array_or_scalar doc with ⟨entries, rfl⟩ | ⟨items, rfl⟩ | hscalar
  · rw [putChild_object]
    exact Dict.ascending_put h step.text v
  · cases step with
    | key name => cases h
    | index position => exact takes_putChild_index items position v
  · cases step with
    | key name =>
      rw [putChild_scalar_key doc hscalar, putChild_object_key]
      exact Dict.ascending_put .nil name v
    | index position =>
      rw [putChild_scalar_index doc hscalar]
      exact takes_putChild_index [] position v

theorem putChild_array_putChild_self (items : List Json) (position : Nat) (v w : Json) :
    ((array items).putChild (.index position) v).putChild (.index position) w =
      (array items).putChild (.index position) w := by
  by_cases hpast : greatestPadding < position
  · rw [putChild_array_past items hpast, putChild_array_past items hpast, putChild_object_index,
      Dict.put_put_self]
  · have hle := Nat.not_lt.mp hpast
    rw [putChild_array_placed items hle, putChild_array_placed items hle,
      putChild_array_placed _ hle, placed_placed_self]

theorem putChild_array_key_putChild_self (items : List Json) {name : String}
    (h : ¬(array items).respells (.key name)) (v w : Json) :
    ((array items).putChild (.key name) v).putChild (.key name) w =
      (array items).putChild (.key name) w := by
  cases hp : position? name with
  | none =>
    rw [putChild_array_name items hp, putChild_array_name items hp, putChild_object_key]
    exact congrArg object (Dict.put_put_self [] name v w)
  | some position =>
    by_cases hpast : greatestPadding < position
    · have hname : name = position.repr := Classical.not_not.mp fun hne => h ⟨position, hp, hpast, hne⟩
      rw [putChild_array_key items hp, putChild_array_key items hp, putChild_array_past items hpast,
        putChild_array_past items hpast, hname, putChild_object_key, Dict.put_put_self]
    · have hle := Nat.not_lt.mp hpast
      rw [putChild_array_key items hp, putChild_array_key items hp, putChild_array_placed items hle,
        putChild_array_key _ hp, putChild_array_placed _ hle, putChild_array_placed items hle,
        placed_placed_self]

/-- Of two writes by one step the second counts. -/
theorem putChild_putChild_self {doc : Json} {step : Step} (h : ¬doc.respells step) (v w : Json) :
    (doc.putChild step v).putChild step w = doc.putChild step w := by
  rcases object_or_array_or_scalar doc with ⟨entries, rfl⟩ | ⟨items, rfl⟩ | hscalar
  · rw [putChild_object, putChild_object, putChild_object, Dict.put_put_self]
  · cases step with
    | key name => exact putChild_array_key_putChild_self items h v w
    | index position => exact putChild_array_putChild_self items position v w
  · cases step with
    | key name =>
      simp only [putChild_scalar_key doc hscalar, putChild_object_key]
      rw [Dict.put_put_self]
    | index position =>
      simp only [putChild_scalar_index doc hscalar]
      exact putChild_array_putChild_self [] position v w

section
variable {s t : Step} (hb : Step.Beside s t)
include hb

/-- A write by the one step is not seen by the other. -/
theorem reached_putChild_beside {doc : Json} (h : doc.Takes s) (v : Json) :
    (doc.putChild s v).reached t = doc.reached t := by
  rw [reached_eq, reached_eq]
  cases hb with
  | keys hne =>
    rcases object_or_array_or_scalar doc with ⟨entries, rfl⟩ | ⟨items, rfl⟩ | hscalar
    · rw [putChild_object_key, child?, child?, Dict.get?_put_of_ne _ hne]
    · cases h
    · rw [putChild_scalar_key doc hscalar, putChild_object_key, child?,
        Dict.get?_put_of_ne _ hne, child?_scalar doc hscalar]
      rfl
  | @indices i j hne hi hj =>
    rcases object_or_array_or_scalar doc with ⟨entries, rfl⟩ | ⟨items, rfl⟩ | hscalar
    · have hrepr : i.repr ≠ j.repr := fun he => hne (repr_inj.mp he)
      rw [putChild_object_index, child?, child?, Dict.get?_put_of_ne _ hrepr]
    · rw [putChild_array_placed items hi]
      exact getD_placed_of_ne items hne v
    · rw [putChild_scalar_index doc hscalar, putChild_array_placed [] hi,
        child?_scalar doc hscalar]
      exact getD_placed_of_ne [] hne v

theorem takes_putChild_beside {doc : Json} (h : doc.Takes s) (v : Json) :
    (doc.putChild s v).Takes t :=
  (takes_beside hb _).mp (takes_putChild_self h v)

/-- Writes by the one and by the other can be interchanged. -/
theorem putChild_comm {doc : Json} (h : doc.Takes s) (v w : Json) :
    (doc.putChild s v).putChild t w = (doc.putChild t w).putChild s v := by
  cases hb with
  | keys hne =>
    rcases object_or_array_or_scalar doc with ⟨entries, rfl⟩ | ⟨items, rfl⟩ | hscalar
    · simp only [putChild_object_key]
      rw [Dict.put_comm h hne]
    · cases h
    · simp only [putChild_scalar_key doc hscalar, putChild_object_key]
      rw [Dict.put_comm .nil hne]
  | @indices i j hne hi hj =>
    have helements : ∀ items, ((array items).putChild (.index i) v).putChild (.index j) w =
        ((array items).putChild (.index j) w).putChild (.index i) v := by
      intro items
      rw [putChild_array_placed items hi, putChild_array_placed items hj,
        putChild_array_placed _ hj, putChild_array_placed _ hi, placed_comm items hne]
    rcases object_or_array_or_scalar doc with ⟨entries, rfl⟩ | ⟨items, rfl⟩ | hscalar
    · have hrepr : i.repr ≠ j.repr := fun he => hne (repr_inj.mp he)
      simp only [putChild_object_index]
      rw [Dict.put_comm h hrepr]
    · exact helements items
    · rw [putChild_scalar_index doc hscalar, putChild_scalar_index doc hscalar]
      exact helements []

end

/-! ### A walk -/

/-- Every step of a walk goes into the value that it meets as it is. -/
def Fits : List Step → Json → Prop
  | [], _ => True
  | step :: rest, doc => doc.Takes step ∧ Fits rest (doc.reached step)

theorem fits_null (steps : List Step) : Fits steps null := by
  induction steps with
  | nil => trivial
  | cons step rest ih =>
    have hreached : null.reached step = null := by
      rw [reached_eq]
      cases step <;> rfl
    refine ⟨by cases step <;> trivial, ?_⟩
    rw [hreached]
    exact ih

theorem fits_empty (steps : List Step) : Fits steps (object []) := by
  cases steps with
  | nil => trivial
  | cons step rest =>
    have hreached : (object []).reached step = null := by
      rw [reached_eq]
      cases step <;> rfl
    refine ⟨.nil, ?_⟩
    rw [hreached]
    exact fits_null rest

/-- Where a walk fits, what it writes can be read. -/
theorem read_write_of_fits {steps : List Step} {doc : Json} (h : Fits steps doc) (v : Json) :
    read steps (write steps v doc) = some v := by
  induction steps generalizing doc with
  | nil => rfl
  | cons step rest ih =>
    obtain ⟨hstep, hrest⟩ := h
    rw [write_cons_reached, read, child?_putChild doc step _ (not_respells_of_takes hstep),
      Option.bind_some]
    exact ih hrest

theorem fits_write {p q : List Step} (h : Step.Apart p q) {doc : Json} (hp : Fits p doc)
    (hq : Fits q doc) (v : Json) : Fits q (write p v doc) := by
  induction h generalizing doc with
  | here hb =>
    rw [write_cons_reached]
    refine ⟨takes_putChild_beside hb hp.1 _, ?_⟩
    rw [reached_putChild_beside hb hp.1]
    exact hq.2
  | later _ ih =>
    rw [write_cons_reached]
    refine ⟨takes_putChild_self hp.1 _, ?_⟩
    rw [reached_putChild_self (not_respells_of_takes hp.1)]
    exact ih hp.2 hq.2

theorem write_comm {p q : List Step} (h : Step.Apart p q) {doc : Json} (hp : Fits p doc)
    (hq : Fits q doc) (v w : Json) :
    write q w (write p v doc) = write p v (write q w doc) := by
  induction h generalizing doc with
  | @here s t p q hb =>
    simp only [write_cons_reached]
    rw [reached_putChild_beside hb hp.1, reached_putChild_beside hb.symm hq.1,
      putChild_comm hb hp.1]
  | @later s p q _ ih =>
    have hs := not_respells_of_takes hp.1
    simp only [write_cons_reached]
    rw [reached_putChild_self hs, reached_putChild_self hs, putChild_putChild_self hs,
      putChild_putChild_self hs, ih hp.2 hq.2]

end Json

namespace Path

/-- Two writes with their paths apart. -/
def Apart (a b : String × Json) : Prop := Step.Apart (ofText a.1).steps (ofText b.1).steps

theorem Apart.symm {a b : String × Json} (h : Apart a b) : Apart b a := Step.Apart.symm h

theorem setAll_append (a b : List (String × Json)) (doc : Json) :
    setAll (a ++ b) doc = setAll b (setAll a doc) := List.foldl_append

theorem fits_setAll {writes : List (String × Json)} {steps : List Step} {doc : Json}
    (h : ∀ w ∈ writes, Step.Apart (ofText w.1).steps steps) (hapart : writes.Pairwise Apart)
    (hfits : ∀ w ∈ writes, Json.Fits (ofText w.1).steps doc) (hsteps : Json.Fits steps doc) :
    Json.Fits steps (setAll writes doc) := by
  induction writes generalizing doc with
  | nil => exact hsteps
  | cons first rest ih =>
    obtain ⟨hfirst, hrest⟩ := List.pairwise_cons.mp hapart
    obtain ⟨hthis, hothers⟩ := List.forall_mem_cons.mp hfits
    obtain ⟨haway, hlater⟩ := List.forall_mem_cons.mp h
    exact ih hlater hrest (fun w hw => Json.fits_write (hfirst w hw) hthis (hothers w hw) first.2)
      (Json.fits_write haway hthis hsteps first.2)

theorem setAll_perm {writes other : List (String × Json)} (hperm : writes.Perm other) {doc : Json}
    (hapart : writes.Pairwise Apart) (hfits : ∀ w ∈ writes, Json.Fits (ofText w.1).steps doc) :
    setAll writes doc = setAll other doc := by
  induction hperm generalizing doc with
  | nil => rfl
  | cons first _ ih =>
    obtain ⟨hfirst, hrest⟩ := List.pairwise_cons.mp hapart
    obtain ⟨hthis, hothers⟩ := List.forall_mem_cons.mp hfits
    exact ih hrest fun w hw => Json.fits_write (hfirst w hw) hthis (hothers w hw) first.2
  | swap first second rest =>
    obtain ⟨hsecond, -⟩ := List.pairwise_cons.mp hapart
    have hapart := hsecond first (List.mem_cons_self ..)
    have hswap : (ofText first.1).set first.2 ((ofText second.1).set second.2 doc) =
        (ofText second.1).set second.2 ((ofText first.1).set first.2 doc) :=
      Json.write_comm hapart (hfits second (by simp)) (hfits first (by simp)) second.2 first.2
    show setAll rest _ = setAll rest _
    exact congrArg (setAll rest) hswap
  | trans ha _ iha ihb =>
    rw [iha hapart hfits]
    exact ihb ((ha.pairwise_iff Apart.symm).mp hapart) fun w hw => hfits w (ha.mem_iff.mpr hw)

/-- **Writes that are apart make one document in any order, and each of them can be
read in it.** -/
theorem setAll_of_apart (writes : List (String × Json)) (h : writes.Pairwise Apart) :
    (∀ other, writes.Perm other → setAll other (.object []) = setAll writes (.object [])) ∧
      ∀ w ∈ writes, (ofText w.1).get? (setAll writes (.object [])) = some w.2 := by
  have hfits : ∀ w ∈ writes, Json.Fits (ofText w.1).steps (.object []) :=
    fun w _ => Json.fits_empty _
  refine ⟨fun other hperm => (setAll_perm hperm h hfits).symm, ?_⟩
  intro w hw
  -- A write may as well be the last one, and then nothing is written after it.
  obtain ⟨before, after, rfl⟩ := List.append_of_mem hw
  have hlast : (before ++ w :: after).Perm (before ++ after ++ [w]) := by
    rw [List.append_assoc]
    exact (@List.perm_append_comm _ [w] _).append_left before
  have hapart := List.pairwise_append.mp ((hlast.pairwise_iff Apart.symm).mp h)
  have hlastFits : Json.Fits (ofText w.1).steps (setAll (before ++ after) (.object [])) :=
    fits_setAll (fun x hx => hapart.2.2 x hx w (List.mem_singleton_self w)) hapart.1
      (fun x _ => Json.fits_empty _) (Json.fits_empty _)
  rw [setAll_perm hlast h hfits, setAll_append]
  exact Json.read_write_of_fits hlastFits w.2

/-- Two elements of an array and a name beside it, the greater position first. -/
theorem setAll_of_apart_two_elements :
    let writes := [("user.tags[1]", Json.string "admin"), ("user.name", .string "Ada"),
      ("user.tags[0]", .string "staff")]
    let made := Json.object [("user", .object [("name", .string "Ada"),
      ("tags", .array [.string "staff", .string "admin"])])]
    writes.Pairwise Apart ∧ setAll writes (.object []) = made ∧
      setAll writes.reverse (.object []) = made ∧
      (ofText "user.tags[1]").get? made = some (.string "admin") := by
  have hlast : (ofText "user.tags[1]").steps = [.key "user", .key "tags", .index 1] := by decide
  have hname : (ofText "user.name").steps = [.key "user", .key "name"] := by decide
  have hfirst : (ofText "user.tags[0]").steps = [.key "user", .key "tags", .index 0] := by decide
  have hapart : [("user.tags[1]", Json.string "admin"), ("user.name", .string "Ada"),
      ("user.tags[0]", .string "staff")].Pairwise Apart := by
    simp only [List.pairwise_cons, List.mem_cons, List.not_mem_nil, or_false, forall_eq_or_imp,
      forall_eq, Apart, hlast, hname, hfirst]
    have hkeys : Step.Beside (.key "tags") (.key "name") := .keys (by decide)
    have hindices : Step.Beside (.index 1) (.index 0) := .indices (by decide) (by decide) (by decide)
    exact ⟨⟨.later (.here hkeys), .later (.later (.here hindices))⟩,
      .later (.here hkeys.symm), by simp⟩
  have hmade : setAll [("user.tags[1]", Json.string "admin"), ("user.name", .string "Ada"),
      ("user.tags[0]", .string "staff")] (.object []) = .object [("user", .object [
        ("name", .string "Ada"), ("tags", .array [.string "staff", .string "admin"])])] := by
    simp only [setAll, List.foldl_cons, List.foldl_nil, set, hlast, hname, hfirst]
    rfl
  obtain ⟨horder, hread⟩ := setAll_of_apart _ hapart
  have hreverse := horder _ (List.reverse_perm _).symm
  rw [hmade] at hread hreverse
  exact ⟨hapart, hmade, hreverse, hread ("user.tags[1]", .string "admin") (List.mem_cons_self ..)⟩

end Path
end FieldRules
