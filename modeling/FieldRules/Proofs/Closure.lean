import FieldRules.Path.Access

/-! Properties of documents that a write keeps.

A write makes containers out of nothing, out of what is in them and out of the value that
it puts in, in few ways. A property that is kept in each of them (`Json.Closed`) is kept by
every write, if the document and the value have it (`Json.Closed.write`). -/
namespace FieldRules.Json

/-- What null and the empty containers have, what the values in a container have with it,
and what a container keeps when a step opens it and puts a value in that has it. -/
structure Closed (P : Json → Prop) : Prop where
  null : P null
  emptyObject : P (object [])
  emptyArray : P (array [])
  entry {entries : List (String × Json)} {name : String} {v : Json} :
    P (object entries) → Dict.get? entries name = some v → P v
  element {items : List Json} {position : Nat} {v : Json} :
    P (array items) → items[position]? = some v → P v
  put {entries : List (String × Json)} {v : Json} (name : String) :
    P (object entries) → P v → P (object (Dict.put entries name v))
  set {items : List Json} {v : Json} {position : Nat} : position ≤ greatestPadding →
    P (array items) → P v → P (array ((padded items position).set position v))
  byPosition {items : List Json} : P (array items) → P (object (byPosition items))

namespace Closed
variable {P : Json → Prop} (hP : Closed P)
include hP

/-! ### One step -/

theorem child? {doc : Json} (h : P doc) (step : Step) : P ((doc.child? step).getD Json.null) := by
  cases hc : doc.child? step with
  | none => exact hP.null
  | some child =>
    rw [Option.getD_some]
    cases doc with
    | object entries => cases step <;> exact hP.entry h hc
    | array items =>
      cases step with
      | index position => exact hP.element h hc
      | key name =>
        obtain ⟨position, -, hitem⟩ := Option.bind_eq_some_iff.mp hc
        exact hP.element h hitem
    | _ => cases step <;> cases hc

theorem putChild_index {items : List Json} (h : P (array items)) (position : Nat) {v : Json}
    (hv : P v) : P ((array items).putChild (.index position) v) := by
  by_cases hpast : greatestPadding < position
  · rw [putChild_array_past items hpast]
    exact hP.put position.repr (hP.byPosition h) hv
  · have hle := Nat.not_lt.mp hpast
    rw [putChild_array_index items hle]
    exact hP.set hle h hv

theorem putChild {doc : Json} (h : P doc) (step : Step) {v : Json} (hv : P v) :
    P (doc.putChild step v) := by
  cases doc with
  | object entries =>
    cases step with
    | key name =>
      rw [putChild_object_key]
      exact hP.put name h hv
    | index position =>
      rw [putChild_object_index]
      exact hP.put position.repr h hv
  | array items =>
    cases step with
    | index position => exact hP.putChild_index h position hv
    | key name =>
      cases hp : position? name with
      | some position =>
        rw [putChild_array_key items hp]
        exact hP.putChild_index h position hv
      | none =>
        rw [putChild_array_name items hp]
        exact hP.put name hP.emptyObject hv
  | _ =>
    -- A scalar makes room as an empty object does, or an empty array.
    cases step with
    | key name =>
      rw [putChild_scalar_key _ rfl, putChild_object_key]
      exact hP.put name hP.emptyObject hv
    | index position =>
      rw [putChild_scalar_index _ rfl]
      exact hP.putChild_index hP.emptyArray position hv

/-! ### A walk -/

theorem write (steps : List Step) {v doc : Json} (hv : P v) (h : P doc) :
    P (write steps v doc) := by
  induction steps generalizing doc with
  | nil => exact hv
  | cons step rest ih =>
    rw [write_cons]
    exact hP.putChild h step (ih (hP.child? h step))

end Closed
end FieldRules.Json
