import FieldRules.Proofs.Interchange

/-! Writing twice at one path.

The first write may make a container, pad one or put another in its place, and the second
then meets what the first one left. By each step it goes into the same child all the same
(`Json.reached_putChild_self`), unless the step respells: then the first write has turned
the array into an object, and the second adds an entry to it under another text.

`Path.set_set_iff`: with that exception, which is one, only the last write is left in the
document. `Path.last_set_counts`: it cannot occur if a key names a position past the
padding by its decimal text alone. -/
namespace FieldRules

namespace Step

/-- If the step is a key, with an index behind it or without, that names a position past
the padding, then it does so by the decimal text of it. -/
def SpellsPast : Step → Prop
  | key name => ∀ position ∈ position? name, greatestPadding < position → name = position.repr
  | index _ => True

instance : DecidablePred SpellsPast
  | key name => inferInstanceAs
      (Decidable (∀ position ∈ position? name, greatestPadding < position → name = position.repr))
  | index _ => inferInstanceAs (Decidable True)

end Step

namespace Json

/-! ### One step -/

theorem not_respells_of_spellsPast {step : Step} (h : step.SpellsPast) (doc : Json) :
    ¬doc.respells step := by
  cases doc with
  | array items =>
    cases step with
    | key name =>
      rintro ⟨position, hp, hpast, hne⟩
      exact hne (h position hp hpast)
    | index position => exact id
  | _ => cases step <;> exact id

theorem putChild_inj {doc : Json} {step : Step} (h : ¬doc.respells step) {v w : Json} :
    doc.putChild step v = doc.putChild step w ↔ v = w := by
  refine ⟨fun he => ?_, fun he => he ▸ rfl⟩
  have hread := child?_putChild doc step v h
  rw [he, child?_putChild doc step w h] at hread
  exact (Option.some.inj hread).symm

/-- After a step that respells has written, what it writes again stands beside it. -/
theorem putChild_putChild_ne_of_respells {doc : Json} {step : Step} (h : doc.respells step)
    (v w u : Json) : (doc.putChild step v).putChild step w ≠ doc.putChild step u := by
  intro he
  have hobject : ¬(doc.putChild step v).respells step := by
    cases doc with
    | array items =>
      cases step with
      | key name =>
        obtain ⟨position, hp, hpast, -⟩ := h
        rw [putChild_array_key items hp, putChild_array_past items hpast]
        exact id
      | index position => cases h
    | _ => cases step <;> cases h
  have hread := child?_putChild _ step w hobject
  rw [he, child?_putChild_of_respells doc step u h] at hread
  cases hread

/-! ### A walk -/

/-- **Only the last of two writes is left exactly when the walk does not stray.** -/
theorem write_write_iff (steps : List Step) (v w doc : Json) :
    write steps w (write steps v doc) = write steps w doc ↔ ¬Strays steps doc := by
  induction steps generalizing doc with
  | nil => exact ⟨fun _ => not_meets_nil respells doc, fun _ => rfl⟩
  | cons step rest ih =>
    simp only [write_cons_reached]
    rw [strays_cons, not_or, ← reached_eq, ← ih]
    by_cases h : doc.respells step
    · simp [putChild_putChild_ne_of_respells h, h]
    · rw [reached_putChild_self h, putChild_putChild_self h, putChild_inj h]
      simp [h]

theorem not_strays_of_spellsPast {steps : List Step} (h : ∀ step ∈ steps, step.SpellsPast)
    (doc : Json) : ¬Strays steps doc := by
  rintro ⟨before, step, after, there, rfl, -, hresp⟩
  exact not_respells_of_spellsPast (h step (by simp)) there hresp

end Json

namespace Path

/-- A second write leaves nothing of the first, whatever the document held, unless the
walk meets an array and the next key names a position past the padding in another spelling
than its decimal text; and then it does. -/
theorem set_set_iff (text : String) (v w doc : Json) :
    (ofText text).set w ((ofText text).set v doc) = (ofText text).set w doc ↔
      ¬∃ before name after items position,
        (ofText text).steps = before ++ .key name :: after ∧
          Json.read before doc = some (.array items) ∧ position? name = some position ∧
          greatestPadding < position ∧ name ≠ position.repr := by
  rw [set, set, set, Json.write_write_iff, Json.strays_iff]

/-- **The last write counts.** If no key spells a position past the padding in any other way
than by its decimal text, then of two writes at one path, in any document, only the second
is left, and it is read there. -/
theorem last_set_counts (text : String) (h : ∀ step ∈ (ofText text).steps, step.SpellsPast)
    (v w doc : Json) :
    (ofText text).set w ((ofText text).set v doc) = (ofText text).set w doc ∧
      (ofText text).get? ((ofText text).set w ((ofText text).set v doc)) = some w := by
  have hsame := (Json.write_write_iff (ofText text).steps v w doc).mpr
    (Json.not_strays_of_spellsPast h doc)
  refine ⟨hsame, ?_⟩
  rw [set, set, hsame]
  exact (Json.read_write_iff ..).mpr (Json.not_strays_of_spellsPast h doc)

/-- The first write turns the array into an object, in which the second one replaces what
it made; a sign in front of a position within the padding is no other spelling that counts. -/
theorem last_set_counts_past_padding :
    let p := ofText "rows.70000.+1"
    let doc := Json.object [("rows", .array [.bool false])]
    let left := Json.object [("rows", .object [("0", .bool false),
      ("70000", .object [("+1", .bool true)])])]
    (∀ step ∈ p.steps, step.SpellsPast) ∧ p.set (.bool true) (p.set .null doc) = left ∧
      p.get? left = some (.bool true) := by
  have hsteps : (ofText "rows.70000.+1").steps = [.key "rows", .key "70000", .key "+1"] := by
    decide
  have hspelled : ∀ step ∈ (ofText "rows.70000.+1").steps, step.SpellsPast := by decide
  have hp : position? "70000" = some 70000 := by decide
  have hposition : Json.byPosition [.bool false] = [("0", .bool false)] :=
    Dict.ofList_of_ascending (List.pairwise_singleton _ ("0", Json.bool false))
  have hrows : Json.write [.key "70000", .key "+1"] (.bool true) (.array [.bool false]) =
      .object [("0", .bool false), ("70000", .object [("+1", .bool true)])] := by
    rw [Json.write_cons, Json.child?_array_key _ hp, Json.putChild_array_key _ hp,
      Json.putChild_array_past _ (by decide), hposition]
    rfl
  have hleft : (ofText "rows.70000.+1").set (.bool true) (.object [("rows", .array [.bool false])]) =
      .object [("rows", .object [("0", .bool false), ("70000", .object [("+1", .bool true)])])] := by
    rw [set, hsteps, Json.write_cons]
    exact congrArg (fun v => Json.object [("rows", v)]) hrows
  obtain ⟨hsame, hread⟩ := last_set_counts _ hspelled .null (.bool true)
    (.object [("rows", .array [.bool false])])
  rw [hsame, hleft] at hread
  exact ⟨hspelled, hsame.trans hleft, hread⟩

end Path
end FieldRules
