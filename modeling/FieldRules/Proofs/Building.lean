import FieldRules.Path.Access

/-! What a write builds where nothing is.

In a value that holds nothing each step makes a container of its own kind, with room
for one value (`Json.build`): a key an object, an index an array as long as it needs,
or past the padding an object again. There is nothing else in the document then.

`set_eq_build`: a write at any path makes that of null, of every scalar and of the
empty object, and what it wrote is read there. -/
namespace FieldRules

namespace Json

/-- The document in which the steps lead to the value, and nothing else is. -/
def build : List Step → Json → Json
  | [], v => v
  | .key name :: rest, v => object [(name, build rest v)]
  | .index position :: rest, v =>
    if greatestPadding < position then object [(position.repr, build rest v)]
    else array (List.replicate position null ++ [build rest v])

theorem build_index_past {position : Nat} (h : greatestPadding < position) (rest : List Step)
    (v : Json) : build (.index position :: rest) v = object [(position.repr, build rest v)] := by
  rw [build, if_pos h]

theorem build_index {position : Nat} (h : position ≤ greatestPadding) (rest : List Step)
    (v : Json) : build (.index position :: rest) v =
      array (List.replicate position null ++ [build rest v]) := by
  rw [build, if_neg (Nat.not_lt.mpr h)]

/-! ### One step -/

theorem set_padded_nil (position : Nat) (v : Json) :
    (padded [] position).set position v = List.replicate position null ++ [v] := by
  have hroom : padded [] position = List.replicate position null ++ [null] := by
    show List.replicate (position + 1) null = _
    exact List.replicate_succ'
  rw [hroom, List.set_append_right position v (by simp)]
  simp

theorem putChild_scalar (doc : Json) (h : doc.isContainer = false) (step : Step) (v : Json) :
    doc.putChild step v = build [step] v := by
  cases step with
  | key name =>
    rw [putChild_scalar_key doc h, putChild_object_key]
    rfl
  | index position =>
    rw [putChild_scalar_index doc h]
    by_cases hpast : greatestPadding < position
    · rw [putChild_array_past [] hpast, build_index_past hpast, byPosition_nil]
      rfl
    · have hle := Nat.not_lt.mp hpast
      rw [putChild_array_index [] hle, build_index hle, set_padded_nil]
      rfl

theorem child?_scalar (doc : Json) (h : doc.isContainer = false) (step : Step) :
    doc.child? step = none := by
  cases doc with
  | array items => cases h
  | object entries => cases h
  | _ => cases step <;> rfl

/-- One step, and what the others build in its place. -/
theorem build_cons (step : Step) (rest : List Step) (v : Json) :
    build (step :: rest) v = build [step] (build rest v) := by
  cases step <;> rfl

theorem child?_build (step : Step) (v : Json) : (build [step] v).child? step = some v := by
  cases step with
  | key name => simp [build, child?, Dict.get?]
  | index position =>
    by_cases hpast : greatestPadding < position
    · rw [build_index_past hpast]
      simp [build, child?, Dict.get?]
    · rw [build_index (Nat.not_lt.mp hpast)]
      simp [build, child?]

/-! ### A walk -/

theorem write_scalar (steps : List Step) (v doc : Json) (h : doc.isContainer = false) :
    write steps v doc = build steps v := by
  induction steps generalizing doc with
  | nil => rfl
  | cons step rest ih =>
    rw [write_cons, child?_scalar doc h, Option.getD_none, ih null rfl, putChild_scalar doc h,
      ← build_cons]

/-- In the empty object a key finds as little as in null. -/
theorem write_empty (name : String) (rest : List Step) (v : Json) :
    write (.key name :: rest) v (object []) = build (.key name :: rest) v := by
  have hchild : (object []).child? (.key name) = none := rfl
  rw [write_cons, hchild, Option.getD_none, write_scalar rest v null rfl, putChild_object_key]
  rfl

theorem read_build (steps : List Step) (v : Json) : read steps (build steps v) = some v := by
  induction steps with
  | nil => rfl
  | cons step rest ih => rw [build_cons, read, child?_build, Option.bind_some, ih]

end Json

namespace Path

/-- A path begins with a key. -/
theorem steps_ofText_eq_cons (text : String) :
    ∃ name rest, (ofText text).steps = .key name :: rest := by
  obtain ⟨first, others, hsegments⟩ :=
    List.exists_cons_of_ne_nil (segments_ofText_ne_nil text)
  rw [steps, hsegments, List.flatMap_cons, Segment.steps]
  split
  · exact ⟨first.key, _, rfl⟩
  · exact ⟨first.key, _, rfl⟩

/-- **Where nothing is, a write builds the containers of its steps and no more**, and
the value is read at the end of them. -/
theorem set_eq_build (text : String) (v root : Json)
    (h : root.isContainer = false ∨ root = .object []) :
    (ofText text).set v root = Json.build (ofText text).steps v ∧
      (ofText text).get? (Json.build (ofText text).steps v) = some v := by
  refine ⟨?_, Json.read_build _ v⟩
  rcases h with hscalar | rfl
  · exact Json.write_scalar _ v root hscalar
  · obtain ⟨name, rest, hsteps⟩ := steps_ofText_eq_cons text
    rw [set, hsteps]
    exact Json.write_empty name rest v

/-- A string goes, and the containers below it are an object, an array, an object and
an object under the text of a position past the padding. -/
theorem set_eq_build_past_padding :
    let p := ofText "rows[1].at[65536]"
    let built := Json.object [("rows", .array [.null,
      .object [("at", .object [("65536", .bool true)])]])]
    (Json.string "no rows").isContainer = false ∧
      p.set (.bool true) (.string "no rows") = built ∧ p.get? built = some (.bool true) := by
  have hsteps : (ofText "rows[1].at[65536]").steps =
      [.key "rows", .index 1, .key "at", .index 65536] := by decide
  have hset := set_eq_build "rows[1].at[65536]" (.bool true) (.string "no rows") (.inl rfl)
  rw [hsteps] at hset
  exact ⟨rfl, hset⟩

end Path
end FieldRules
