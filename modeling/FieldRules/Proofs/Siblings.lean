import FieldRules.Path.Access

/-! What a write leaves beside its way.

The children of an object stand under its keys, those of an array under the decimal
texts of their positions (`Json.HasChild`); so a child stands where it stood when its
array becomes an object. In the container that it meets a step of a write addresses
one text (`Json.addressed`), and the children under all others stay as they are. There
is one exception (`Json.discards`): an array has no place for a key that names no
position, and an object without any child takes its place.

`set_spares_iff`: a write loses what stands beside its way in that case only, and
then always. -/
namespace FieldRules

namespace Json

/-! ### Children by text -/

/-- The container has the child under the text. -/
inductive HasChild : Json → String → Json → Prop where
  | entry {entries : List (String × Json)} {name : String} {child : Json} :
      Dict.get? entries name = some child → HasChild (object entries) name child
  | element {items : List Json} {position : Nat} {child : Json} :
      items[position]? = some child → HasChild (array items) position.repr child

theorem hasChild_object (entries : List (String × Json)) (name : String) (child : Json) :
    HasChild (object entries) name child ↔ Dict.get? entries name = some child :=
  ⟨fun | .entry h => h, .entry⟩

theorem hasChild_array (items : List Json) (name : String) (child : Json) :
    HasChild (array items) name child ↔
      ∃ position, name = Nat.repr position ∧ items[position]? = some child := by
  constructor
  · intro h
    cases h with
    | element hitem => exact ⟨_, rfl, hitem⟩
  · rintro ⟨position, rfl, h⟩
    exact .element h

theorem hasChild_array_repr (items : List Json) (position : Nat) (child : Json) :
    HasChild (array items) position.repr child ↔ items[position]? = some child := by
  constructor
  · intro h
    obtain ⟨other, he, hother⟩ := (hasChild_array ..).mp h
    rwa [repr_inj.mp he]
  · exact .element

theorem hasChild_unique {doc : Json} {name : String} {a b : Json} (ha : HasChild doc name a)
    (hb : HasChild doc name b) : a = b := by
  cases ha with
  | entry ha =>
    rw [hasChild_object] at hb
    exact Option.some.inj (ha.symm.trans hb)
  | element ha =>
    rw [hasChild_array_repr] at hb
    exact Option.some.inj (ha.symm.trans hb)

/-! ### One step -/

/-- The text under which a step writes in a value. -/
def addressed : Json → Step → String
  | array _, .key name =>
    match position? name with
    | some position => position.repr
    | none => name
  | _, step => step.text

/-- The value is an array, and the step a key that names no position. -/
def discards : Json → Step → Prop
  | array _, .key name => position? name = none
  | _, _ => False

theorem discards_iff (doc : Json) (step : Step) :
    doc.discards step ↔
      ∃ items name, doc = array items ∧ step = .key name ∧ position? name = none := by
  constructor
  · intro h
    cases doc with
    | array items =>
      cases step with
      | key name => exact ⟨items, name, rfl, rfl, h⟩
      | index position => cases h
    | _ => cases h
  · rintro ⟨items, name, rfl, rfl, hp⟩
    exact hp

theorem addressed_object (entries : List (String × Json)) (step : Step) :
    (object entries).addressed step = step.text := rfl

theorem putChild_object (entries : List (String × Json)) (step : Step) (v : Json) :
    (object entries).putChild step v = object (Dict.put entries step.text v) := by
  cases step with
  | key name => exact putChild_object_key entries name v
  | index position => exact putChild_object_index entries position v

theorem addressed_array_key (items : List Json) {name : String} {position : Nat}
    (h : position? name = some position) :
    (array items).addressed (.key name) = position.repr := by
  simp [addressed, h]

theorem addressed_array_name (items : List Json) {name : String} (h : position? name = none) :
    (array items).addressed (.key name) = name := by
  simp [addressed, h]

theorem hasChild_putChild_index (items : List Json) (position : Nat) (v : Json) :
    HasChild ((array items).putChild (.index position) v) position.repr v := by
  by_cases h : greatestPadding < position
  · rw [putChild_array_past items h, hasChild_object]
    exact Dict.get?_put_self ..
  · rw [putChild_array_index items (Nat.not_lt.mp h), hasChild_array_repr]
    exact List.getElem?_set_self (length_padded items position)

/-- A step writes under the text that it addresses. -/
theorem hasChild_putChild (doc : Json) (step : Step) (v : Json) :
    HasChild (doc.putChild step v) (doc.addressed step) v := by
  cases doc with
  | object entries =>
    rw [putChild_object]
    exact .entry (Dict.get?_put_self ..)
  | array items =>
    cases step with
    | index position => exact hasChild_putChild_index items position v
    | key name =>
      cases hp : position? name with
      | some position =>
        rw [putChild_array_key items hp, addressed_array_key items hp]
        exact hasChild_putChild_index items position v
      | none =>
        rw [putChild_array_name items hp, addressed_array_name items hp]
        exact .entry (Dict.get?_put_self [] name v)
  | _ =>
    -- A scalar makes room as an empty object does, or an empty array.
    cases step with
    | key name =>
      rw [putChild_scalar_key _ rfl, putChild_object_key]
      exact .entry (Dict.get?_put_self ..)
    | index position =>
      rw [putChild_scalar_index _ rfl]
      exact hasChild_putChild_index [] position v

theorem hasChild_putChild_index_of_ne {items : List Json} {position : Nat} {name : String}
    (hne : name ≠ position.repr) {child : Json} (h : HasChild (array items) name child) (v : Json) :
    HasChild ((array items).putChild (.index position) v) name child := by
  obtain ⟨other, rfl, hother⟩ := (hasChild_array ..).mp h
  -- Past the padding the array becomes an object: the position is still its text.
  by_cases hpast : greatestPadding < position
  · rw [putChild_array_past items hpast, hasChild_object, Dict.get?_put_of_ne _ hne.symm,
      get?_byPosition]
    exact hother
  · have hpos : position ≠ other := fun he => hne (he ▸ rfl)
    have hlt : other < items.length := (List.getElem?_eq_some_iff.mp hother).1
    rw [putChild_array_index items (Nat.not_lt.mp hpast), hasChild_array_repr,
      List.getElem?_set_ne hpos, padded, List.getElem?_append_left hlt]
    exact hother

/-- And leaves the children under all other texts, unless it discards them all. -/
theorem hasChild_putChild_of_ne {doc : Json} {step : Step} (hd : ¬doc.discards step)
    {name : String} (hne : name ≠ doc.addressed step) {child : Json}
    (h : HasChild doc name child) (v : Json) : HasChild (doc.putChild step v) name child := by
  cases doc with
  | object entries =>
    rw [hasChild_object] at h
    rw [addressed_object] at hne
    rw [putChild_object, hasChild_object, Dict.get?_put_of_ne _ hne.symm]
    exact h
  | array items =>
    cases step with
    | index position => exact hasChild_putChild_index_of_ne hne h v
    | key written =>
      obtain ⟨position, hp⟩ := Option.ne_none_iff_exists'.mp hd
      rw [addressed_array_key items hp] at hne
      rw [putChild_array_key items hp]
      exact hasChild_putChild_index_of_ne hne h v
  | _ => cases h

/-- Of the children of an array that is discarded none is left. -/
theorem not_hasChild_of_discards {doc : Json} {step : Step} (hd : doc.discards step) (v : Json)
    {name : String} (hne : name ≠ doc.addressed step) (child : Json) :
    ¬HasChild (doc.putChild step v) name child := by
  cases doc with
  | array items =>
    cases step with
    | index position => cases hd
    | key written =>
      rw [addressed_array_name items hd] at hne
      rw [putChild_array_name items hd, hasChild_object, Dict.get?, if_neg hne.symm]
      simp [Dict.get?]
  | _ => cases hd

/-! ### A walk -/

/-- The value that a step of a write goes on in: the child there is, or a null in
its place. -/
def reached (doc : Json) (step : Step) : Json :=
  ((doc.opened step).1.at? (doc.opened step).2).getD null

/-- The value that a write arrives at by some steps. -/
def arrived : List Step → Json → Json
  | [], doc => doc
  | step :: rest, doc => arrived rest (doc.reached step)

/-- The texts that it addresses on the way there. -/
def address : List Step → Json → List String
  | [], _ => []
  | step :: rest, doc => doc.addressed step :: address rest (doc.reached step)

/-- From child to child, the texts lead to the value. -/
def Holds : Json → List String → Json → Prop
  | doc, [], v => doc = v
  | doc, name :: rest, v => ∃ child, HasChild doc name child ∧ Holds child rest v

theorem write_cons_reached (step : Step) (rest : List Step) (v doc : Json) :
    write (step :: rest) v doc = doc.putChild step (write rest v (doc.reached step)) := rfl

/-- What follows some steps is a write of its own, in the value arrived at. -/
theorem write_append (before after : List Step) (v doc : Json) :
    write (before ++ after) v doc = write before (write after v (arrived before doc)) doc := by
  induction before generalizing doc with
  | nil => rfl
  | cons step rest ih =>
    rw [List.cons_append, write_cons_reached, ih, write_cons_reached]
    rfl

theorem holds_append (doc : Json) (a b : List String) (v : Json) :
    Holds doc (a ++ b) v ↔ ∃ there, Holds doc a there ∧ Holds there b v := by
  induction a generalizing doc with
  | nil => simp [Holds]
  | cons name rest ih =>
    simp only [List.cons_append, Holds, ih]
    constructor
    · rintro ⟨child, hchild, there, hthere, hb⟩
      exact ⟨there, ⟨child, hchild, hthere⟩, hb⟩
    · rintro ⟨there, ⟨child, hchild, hthere⟩, hb⟩
      exact ⟨child, hchild, there, hthere, hb⟩

theorem holds_unique {doc : Json} {names : List String} {a b : Json} (ha : Holds doc names a)
    (hb : Holds doc names b) : a = b := by
  induction names generalizing doc with
  | nil => exact ha.symm.trans hb
  | cons name rest ih =>
    obtain ⟨child, hchild, ha⟩ := ha
    obtain ⟨other, hother, hb⟩ := hb
    rw [hasChild_unique hother hchild] at hb
    exact ih ha hb

/-- A write puts its value where it arrives. -/
theorem holds_write (steps : List Step) (v doc : Json) :
    Holds (write steps v doc) (address steps doc) v := by
  induction steps generalizing doc with
  | nil => rfl
  | cons step rest ih => exact ⟨_, hasChild_putChild doc step _, ih _⟩

/-- After the steps a value of its own stands where they arrive, and what the write
makes of one more step there is all that can be seen under the next text. -/
theorem holds_write_append (before : List Step) (step : Step) (after : List Step) (v doc : Json)
    (name : String) (child : Json) :
    Holds (write (before ++ step :: after) v doc) (address before doc ++ [name]) child ↔
      HasChild ((arrived before doc).putChild step
        (write after v ((arrived before doc).reached step))) name child := by
  rw [write_append, write_cons_reached, holds_append]
  have hthere := holds_write before ((arrived before doc).putChild step
    (write after v ((arrived before doc).reached step))) doc
  constructor
  · rintro ⟨there, hholds, other, hother, rfl⟩
    rwa [holds_unique hthere hholds]
  · intro hchild
    exact ⟨_, hthere, child, hchild, rfl⟩

/-- Every child of a container that the steps meet stands in the other document
where it stood, but for the one in which they go on. -/
def Spares (steps : List Step) (doc other : Json) : Prop :=
  ∀ before step after, steps = before ++ step :: after → ∀ name child,
    HasChild (arrived before doc) name child → name ≠ (arrived before doc).addressed step →
      Holds other (address before doc ++ [name]) child

theorem ne_of_position?_eq_none {name : String} (h : position? name = none) :
    Nat.repr 0 ≠ name := by
  rintro rfl
  rw [position?_repr] at h
  simp at h

theorem spares_iff (steps : List Step) (v doc : Json) :
    Spares steps doc (write steps v doc) ↔
      ¬∃ before name after items, steps = before ++ .key name :: after ∧
        arrived before doc = array items ∧ items ≠ [] ∧ position? name = none := by
  constructor
  · rintro hspares ⟨before, name, after, items, rfl, hitems, hne, hp⟩
    obtain ⟨first, rest, rfl⟩ := List.exists_cons_of_ne_nil hne
    have hfirst : HasChild (arrived before doc) (Nat.repr 0) first := by
      rw [hitems, hasChild_array_repr]
      rfl
    have hother : Nat.repr 0 ≠ (arrived before doc).addressed (.key name) := by
      rw [hitems, addressed_array_name _ hp]
      exact ne_of_position?_eq_none hp
    have hdiscards := (discards_iff ..).mpr ⟨first :: rest, name, hitems, rfl, hp⟩
    have hholds := hspares before _ after rfl _ first hfirst hother
    rw [holds_write_append] at hholds
    exact not_hasChild_of_discards hdiscards _ hother first hholds
  · rintro hkept before step after rfl name child hchild hne
    rw [holds_write_append]
    refine hasChild_putChild_of_ne (fun hdiscards => hkept ?_) hne hchild _
    obtain ⟨items, written, hitems, rfl, hp⟩ := (discards_iff ..).mp hdiscards
    refine ⟨before, written, after, items, rfl, hitems, ?_, hp⟩
    rintro rfl
    rw [hitems, hasChild_array] at hchild
    simp at hchild

end Json

namespace Path

/-- **A write spares what stands beside its way, unless a key that names no position
meets an array with something in it**; and then it does not. -/
theorem set_spares_iff (text : String) (v doc : Json) :
    Json.Spares (ofText text).steps doc ((ofText text).set v doc) ↔
      ¬∃ before name after items, (ofText text).steps = before ++ .key name :: after ∧
        Json.arrived before doc = .array items ∧ items ≠ [] ∧ position? name = none :=
  Json.spares_iff (ofText text).steps v doc

/-- The two elements of an array are gone when a name is written in it. -/
theorem not_spares_name_in_array :
    ¬Json.Spares (ofText "a").steps (.array [.bool false, .null])
      ((ofText "a").set (.bool true) (.array [.bool false, .null])) := by
  have hsteps : (ofText "a").steps = [.key "a"] := by decide
  rw [set, Json.spares_iff, Classical.not_not]
  exact ⟨[], "a", [], _, hsteps, rfl, List.cons_ne_nil _ _, by decide⟩

end Path
end FieldRules
