import FieldRules.Path.Access

/-! When a value that was written can be read back.

A read asks each container as a write addressed it, with one exception
(`Json.respells`): in an array a key may name a position past the padding by another
text than the position's own, with a sign or with zeros in front. The array becomes
an object, whose entry has the position's own text, and a read with the key as it
was written finds nothing there.

`get?_set_iff`: that is the only way to lose a value. -/
namespace FieldRules

namespace Json

/-- In an array, the key names a position past the padding and is not its text. -/
def respells : Json → Step → Prop
  | array _, .key name =>
    ∃ position, position? name = some position ∧ greatestPadding < position ∧
      name ≠ position.repr
  | _, _ => False

/-! ### One step -/

theorem child?_putChild_index (items : List Json) (position : Nat) (v : Json) :
    ((array items).putChild (.index position) v).child? (.index position) = some v := by
  by_cases h : greatestPadding < position
  · rw [putChild_array_past items h]
    exact Dict.get?_put_self ..
  · rw [putChild_array_index items (Nat.not_lt.mp h)]
    exact List.getElem?_set_self (length_padded items position)

theorem child?_putChild_position (items : List Json) {name : String} {position : Nat}
    (hp : position? name = some position) (hs : ¬respells (array items) (.key name)) (v : Json) :
    ((array items).putChild (.key name) v).child? (.key name) = some v := by
  rw [putChild_array_key items hp]
  by_cases h : greatestPadding < position
  · have hname : name = position.repr := Classical.not_not.mp fun hne => hs ⟨position, hp, h, hne⟩
    rw [putChild_array_past items h, hname]
    exact Dict.get?_put_self ..
  · have hback := child?_putChild_index items position v
    rw [putChild_array_index items (Nat.not_lt.mp h)] at hback ⊢
    rw [child?_array_key _ hp, hback]

/-- What a step wrote it reads, unless it respells. -/
theorem child?_putChild (doc : Json) (step : Step) (v : Json) (h : ¬doc.respells step) :
    (doc.putChild step v).child? step = some v := by
  cases step with
  | index position =>
    cases doc with
    | array items => exact child?_putChild_index items position v
    | object entries =>
      rw [putChild_object_index]
      exact Dict.get?_put_self ..
    | _ =>
      rw [putChild_scalar_index _ rfl]
      exact child?_putChild_index [] position v
  | key name =>
    cases doc with
    | array items =>
      cases hp : position? name with
      | some position => exact child?_putChild_position items hp h v
      | none =>
        rw [putChild_array_name items hp]
        exact Dict.get?_put_self [] name v
    | object entries =>
      rw [putChild_object_key]
      exact Dict.get?_put_self ..
    | _ =>
      rw [putChild_scalar_key _ rfl, putChild_object_key]
      exact Dict.get?_put_self ..

/-- A name other than the text of the position it names is the text of none. -/
theorem ne_repr_of_position? {name : String} {position : Nat} (hp : position? name = some position)
    (hne : name ≠ position.repr) (other : Nat) : name ≠ other.repr := by
  rintro rfl
  rw [position?_repr] at hp
  split at hp
  · exact hne (congrArg Nat.repr (Option.some.inj hp))
  · cases hp

theorem child?_putChild_of_respells (doc : Json) (step : Step) (v : Json) (h : doc.respells step) :
    (doc.putChild step v).child? step = none := by
  cases doc with
  | array items =>
    cases step with
    | index position => cases h
    | key name =>
      obtain ⟨position, hp, hpast, hne⟩ := h
      rw [putChild_array_key items hp, putChild_array_past items hpast]
      show Dict.get? (Dict.put (byPosition items) position.repr v) name = none
      rw [Dict.get?_put_of_ne _ hne.symm,
        get?_byPosition_of_ne items name (ne_repr_of_position? hp hne)]
  | _ => cases h

/-! ### A walk -/

/-- Where a read of some steps of a walk arrives, the relation holds of the next one. -/
def Meets (relation : Json → Step → Prop) (steps : List Step) (doc : Json) : Prop :=
  ∃ before step after there, steps = before ++ step :: after ∧ read before doc = some there ∧
    relation there step

theorem not_meets_nil (relation : Json → Step → Prop) (doc : Json) : ¬Meets relation [] doc := by
  rintro ⟨before, step, after, there, hsteps, -⟩
  simp at hsteps

theorem meets_cons (relation : Json → Step → Prop) (step : Step) (rest : List Step) (doc : Json) :
    Meets relation (step :: rest) doc ↔
      relation doc step ∨ ∃ child, doc.child? step = some child ∧ Meets relation rest child := by
  constructor
  · rintro ⟨before, next, after, there, hsteps, hread, hmet⟩
    cases before with
    | nil =>
      cases hsteps
      cases hread
      exact .inl hmet
    | cons first before =>
      cases hsteps
      obtain ⟨child, hchild, hrest⟩ := Option.bind_eq_some_iff.mp hread
      exact .inr ⟨child, hchild, before, next, after, there, rfl, hrest, hmet⟩
  · rintro (hmet | ⟨child, hchild, before, next, after, there, rfl, hread, hmet⟩)
    · exact ⟨[], step, rest, doc, rfl, rfl, hmet⟩
    · refine ⟨step :: before, next, after, there, rfl, ?_, hmet⟩
      rw [read, hchild]
      exact hread

/-- Some step of a walk respells where a read of the steps before it arrives. -/
def Strays (steps : List Step) (doc : Json) : Prop :=
  ∃ before step after there, steps = before ++ step :: after ∧ read before doc = some there ∧
    there.respells step

theorem read_null (steps : List Step) (h : steps ≠ []) : read steps null = none := by
  cases steps with
  | nil => exact absurd rfl h
  | cons step rest => rfl

theorem not_strays_null (steps : List Step) : ¬Strays steps null := by
  rintro ⟨before, step, after, there, -, hread, hresp⟩
  cases before with
  | nil =>
    cases hread
    cases step <;> exact hresp
  | cons first rest =>
    rw [read_null (first :: rest) (List.cons_ne_nil first rest)] at hread
    cases hread

theorem strays_cons (step : Step) (rest : List Step) (doc : Json) :
    Strays (step :: rest) doc ↔
      doc.respells step ∨ Strays rest ((doc.child? step).getD null) := by
  have hcons : Strays (step :: rest) doc ↔
      doc.respells step ∨ ∃ child, doc.child? step = some child ∧ Strays rest child :=
    meets_cons respells step rest doc
  rw [hcons]
  cases doc.child? step with
  | none =>
    -- Where a read finds nothing a write goes on in null, and nothing in null respells.
    simp [not_strays_null]
  | some child => simp

/-- **A walk reads what it wrote exactly when it does not stray.** -/
theorem read_write_iff (steps : List Step) (v doc : Json) :
    read steps (write steps v doc) = some v ↔ ¬Strays steps doc := by
  induction steps generalizing doc with
  | nil => exact ⟨fun _ => not_meets_nil respells doc, fun _ => rfl⟩
  | cons step rest ih =>
    rw [write_cons, strays_cons, not_or, ← ih]
    by_cases h : doc.respells step
    · simp [read, child?_putChild_of_respells doc step _ h, h]
    · simp [read, child?_putChild doc step _ h, h]

theorem strays_iff (steps : List Step) (doc : Json) :
    Strays steps doc ↔ ∃ before name after items position,
      steps = before ++ .key name :: after ∧ read before doc = some (.array items) ∧
        position? name = some position ∧ greatestPadding < position ∧ name ≠ position.repr := by
  constructor
  · rintro ⟨before, step, after, there, hsteps, hread, hresp⟩
    cases there with
    | array items =>
      cases step with
      | index position => cases hresp
      | key name =>
        obtain ⟨position, hposition⟩ := hresp
        exact ⟨before, name, after, items, position, hsteps, hread, hposition⟩
    | _ => cases hresp
  · rintro ⟨before, name, after, items, position, hsteps, hread, hposition⟩
    exact ⟨before, .key name, after, .array items, hsteps, hread, position, hposition⟩

end Json

namespace Path

/-- **What was written at a path is read there, whatever the document held**, unless
the walk meets an array and the next key names a position past the padding in another
spelling than its decimal text; and then it is not. -/
theorem get?_set_iff (text : String) (v doc : Json) :
    (ofText text).get? ((ofText text).set v doc) = some v ↔
      ¬∃ before name after items position,
        (ofText text).steps = before ++ .key name :: after ∧
          Json.read before doc = some (.array items) ∧ position? name = some position ∧
          greatestPadding < position ∧ name ≠ position.repr := by
  rw [get?, set, Json.read_write_iff, Json.strays_iff]

/-- A sign in front of a position past the padding. -/
theorem get?_set_signed_position :
    (ofText "+70000").get? ((ofText "+70000").set (.bool true) (.array [.null])) = none := by
  have hsteps : (ofText "+70000").steps = [.key "+70000"] := by decide
  have hresp : Json.respells (.array [.null]) (.key "+70000") := ⟨70000, by decide⟩
  rw [get?, set, hsteps, Json.write_cons, Json.read,
    Json.child?_putChild_of_respells _ _ _ hresp, Option.bind_none]

end Path
end FieldRules
