import FieldRules.Proofs.Overwritten

/-! Writing back what was read.

Where a walk reads a value there is a container at each of its steps, with a child for the
step. Written back, the value takes the place that it has, and nothing is made or padded
(`Json.putChild_of_child?`). Only an array that is longer than padding makes one can be
entered behind the padding; it then becomes an object, whatever is written
(`Json.putChild_ne_of_converts`).

`Path.set_get_iff`: a document changes in that case and in no other. -/
namespace FieldRules

/-- The position of the element that a step names in an array. -/
def Step.element? : Step → Option Nat
  | key name => position? name
  | index position => some position

namespace Json

/-! ### One step -/

theorem child?_array (items : List Json) (step : Step) :
    (array items).child? step = step.element?.bind fun position => items[position]? := by
  cases step <;> rfl

theorem putChild_array_element (items : List Json) {step : Step} {position : Nat}
    (h : step.element? = some position) (v : Json) :
    (array items).putChild step v = (array items).putChild (.index position) v := by
  cases step with
  | key name => exact putChild_array_key items h v
  | index other =>
    cases h
    rfl

/-- In an array, the step names an element past the padding. -/
def converts : Json → Step → Prop
  | array _, step => ∃ position, step.element? = some position ∧ greatestPadding < position
  | _, _ => False

theorem converts_iff (doc : Json) (step : Step) :
    doc.converts step ↔ ∃ items position, doc = array items ∧ step.element? = some position ∧
      greatestPadding < position := by
  constructor
  · intro h
    cases doc with
    | array items =>
      obtain ⟨position, hposition⟩ := h
      exact ⟨items, position, rfl, hposition⟩
    | _ => cases h
  · rintro ⟨items, position, rfl, hposition⟩
    exact ⟨position, hposition⟩

theorem converts_of_respells {doc : Json} {step : Step} (h : doc.respells step) :
    doc.converts step := by
  cases doc with
  | array items =>
    cases step with
    | key name =>
      obtain ⟨position, hp, hpast, -⟩ := h
      exact ⟨position, hp, hpast⟩
    | index position => cases h
  | _ => cases step <;> cases h

/-- What is long enough is not padded. -/
theorem padded_of_lt {items : List Json} {position : Nat} (h : position < items.length) :
    padded items position = items := by
  rw [padded, Nat.sub_eq_zero_of_le h, List.replicate_zero, List.append_nil]

theorem placed_of_getElem? {items : List Json} {position : Nat} {v : Json}
    (h : items[position]? = some v) : placed items position v = items := by
  obtain ⟨hlt, rfl⟩ := List.getElem?_eq_some_iff.mp h
  rw [placed, padded_of_lt hlt, List.set_getElem_self]

/-- The child that a step reads can be put in its place. -/
theorem putChild_of_child? {doc : Json} {step : Step} {child : Json}
    (h : doc.child? step = some child) (hc : ¬doc.converts step) :
    doc.putChild step child = doc := by
  rcases object_or_array_or_scalar doc with ⟨entries, rfl⟩ | ⟨items, rfl⟩ | hscalar
  · have hentry : Dict.get? entries step.text = some child := by cases step <;> exact h
    rw [putChild_object, Dict.put_of_get? hentry]
  · rw [child?_array] at h
    obtain ⟨position, hp, hitem⟩ := Option.bind_eq_some_iff.mp h
    have hle : position ≤ greatestPadding := Nat.not_lt.mp fun hpast => hc ⟨position, hp, hpast⟩
    rw [putChild_array_element items hp, putChild_array_placed items hle, placed_of_getElem? hitem]
  · rw [child?_scalar doc hscalar] at h
    cases h

/-- An array that is entered behind the padding is no array any more. -/
theorem putChild_ne_of_converts {doc : Json} {step : Step} (h : doc.converts step) (v : Json) :
    doc.putChild step v ≠ doc := by
  obtain ⟨items, position, rfl, hp, hpast⟩ := (converts_iff ..).mp h
  rw [putChild_array_element items hp, putChild_array_past items hpast]
  exact fun he => Json.noConfusion he

/-! ### A walk -/

/-- **What is written back changes nothing exactly when no array of the walk is entered
behind the padding.** -/
theorem write_eq_self_iff {steps : List Step} {doc v : Json} (h : read steps doc = some v) :
    write steps v doc = doc ↔ ¬Meets converts steps doc := by
  induction steps generalizing doc with
  | nil =>
    cases h
    exact ⟨fun _ => not_meets_nil converts v, fun _ => rfl⟩
  | cons step rest ih =>
    obtain ⟨child, hchild, hrest⟩ := Option.bind_eq_some_iff.mp h
    have hmeets : Meets converts (step :: rest) doc ↔
        doc.converts step ∨ Meets converts rest child := by
      simp [meets_cons, hchild]
    rw [write_cons, hchild, Option.getD_some, hmeets, not_or, ← ih hrest]
    by_cases hc : doc.converts step
    · simp [putChild_ne_of_converts hc, hc]
    · have hspelled : ¬doc.respells step := fun hresp => hc (converts_of_respells hresp)
      have hback : write rest v child = child ↔
          doc.putChild step (write rest v child) = doc.putChild step child :=
        (putChild_inj hspelled).symm
      rw [hback, putChild_of_child? hchild hc]
      simp [hc]

theorem meets_converts_iff (steps : List Step) (doc : Json) :
    Meets converts steps doc ↔ ∃ before step after items position,
      steps = before ++ step :: after ∧ read before doc = some (.array items) ∧
        step.element? = some position ∧ greatestPadding < position := by
  constructor
  · rintro ⟨before, step, after, there, hsteps, hread, hc⟩
    obtain ⟨items, position, rfl, hposition⟩ := (converts_iff ..).mp hc
    exact ⟨before, step, after, items, position, hsteps, hread, hposition⟩
  · rintro ⟨before, step, after, items, position, hsteps, hread, hposition⟩
    exact ⟨before, step, after, .array items, hsteps, hread, position, hposition⟩

end Json

namespace Path

/-- **Writing back what a path reads leaves the document as it is**, unless a step of the
walk names an element of an array past the padding; and then it does not. -/
theorem set_get_iff (text : String) (v doc : Json) (h : (ofText text).get? doc = some v) :
    (ofText text).set v doc = doc ↔
      ¬∃ before step after items position,
        (ofText text).steps = before ++ step :: after ∧
          Json.read before doc = some (.array items) ∧ step.element? = some position ∧
          greatestPadding < position := by
  rw [set, Json.write_eq_self_iff h, Json.meets_converts_iff]

/-- An array with one element past the padding: the one before it can be written back, by a
key with a sign, and that one cannot. -/
theorem set_get_iff_at_padding :
    let rows := Json.array (List.replicate 65537 .null)
    let doc := Json.object [("rows", rows)]
    (ofText "rows.+65535").get? doc = some .null ∧ (ofText "rows.+65535").set .null doc = doc ∧
      (ofText "rows[65536]").get? doc = some .null ∧ (ofText "rows[65536]").set .null doc ≠ doc := by
  intro rows doc
  have hwithin : (ofText "rows.+65535").steps = [.key "rows", .key "+65535"] := by decide
  have hpast : (ofText "rows[65536]").steps = [.key "rows", .index 65536] := by decide
  have hp : position? "+65535" = some 65535 := by decide
  have hrows : doc.child? (.key "rows") = some rows := rfl
  have hitem : ∀ position, position < 65537 → rows.child? (.index position) = some .null := by
    intro position hlt
    rw [Json.child?, List.getElem?_replicate, if_pos hlt]
  have hlast : rows.child? (.key "+65535") = some .null := by
    rw [Json.child?_array_key _ hp, hitem 65535 (by decide)]
  have hread : (ofText "rows.+65535").get? doc = some .null := by
    rw [get?, hwithin, Json.read, hrows, Option.bind_some, Json.read, hlast]
    rfl
  have hreadPast : (ofText "rows[65536]").get? doc = some .null := by
    rw [get?, hpast, Json.read, hrows, Option.bind_some, Json.read, hitem 65536 (by decide)]
    rfl
  refine ⟨hread, ?_, hreadPast, ?_⟩
  · rw [set_get_iff _ _ _ hread, ← Json.meets_converts_iff, hwithin, Json.meets_cons, hrows]
    rintro (hc | ⟨_, hrow, hlater⟩)
    · exact hc
    · cases hrow
      rw [Json.meets_cons] at hlater
      rcases hlater with ⟨position, hposition, hlt⟩ | ⟨_, -, hnil⟩
      · cases hp.symm.trans hposition
        exact absurd hlt (by decide)
      · exact Json.not_meets_nil _ _ hnil
  · rw [Ne, set_get_iff _ _ _ hreadPast, Classical.not_not, hpast]
    exact ⟨[.key "rows"], .index 65536, [], List.replicate 65537 .null, 65536, rfl, rfl, rfl,
      by decide⟩

end Path
end FieldRules
