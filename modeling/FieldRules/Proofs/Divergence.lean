import FieldRules.Proofs.Siblings

/-! What a write does to a read elsewhere.

Two walks diverge when their steps have the same texts up to a place and different
ones there (`Step.Diverge`), whether a step is a key or an index. Up to that place
the read goes where the write goes, behind it where the write does not; and a text
leads to the same child when an array has become an object on the way.

`get?_set_of_diverge`: a write leaves what is read along a diverging path, if it
discards no array and keys spell positions by their decimal texts. -/
namespace FieldRules

namespace Step

/-- A key that names a position does so by the decimal text of it. -/
def Canonical : Step → Prop
  | key name => ∀ position ∈ position? name, name = position.repr
  | index _ => True

instance : DecidablePred Canonical
  | key name => inferInstanceAs (Decidable (∀ position ∈ position? name, name = position.repr))
  | index _ => inferInstanceAs (Decidable True)

/-- The same texts up to a place, and at the next one, which both have, different
texts. -/
inductive Diverge : List Step → List Step → Prop where
  | here {s t : Step} {p q : List Step} : s.text ≠ t.text → Diverge (s :: p) (t :: q)
  | later {s t : Step} {p q : List Step} : s.text = t.text → Diverge p q →
      Diverge (s :: p) (t :: q)

end Step

namespace Json

/-! ### Steps and texts -/

theorem addressed_of_canonical (doc : Json) {step : Step} (h : step.Canonical) :
    doc.addressed step = step.text := by
  cases doc with
  | array items =>
    cases step with
    | index position => rfl
    | key name =>
      cases hp : position? name with
      | none => exact addressed_array_name items hp
      | some position =>
        rw [addressed_array_key items hp]
        exact (h position hp).symm
  | _ => rfl

/-- What is read by a step stands under its text. -/
theorem hasChild_of_child? {doc : Json} {step : Step} (h : step.Canonical) {child : Json}
    (hc : doc.child? step = some child) : HasChild doc step.text child := by
  cases doc with
  | object entries => cases step <;> exact .entry hc
  | array items =>
    cases step with
    | index position => exact .element hc
    | key name =>
      obtain ⟨position, hp, hitem⟩ := Option.bind_eq_some_iff.mp hc
      rw [h position hp]
      exact .element hitem
  | _ => cases step <;> cases hc

/-- What stands under the text of a step is read by it, unless the step can name
nothing there. -/
theorem child?_of_hasChild {doc : Json} {step : Step} (h : step.Canonical)
    (hd : ¬doc.discards step) {child : Json} (hc : HasChild doc step.text child) :
    doc.child? step = some child := by
  cases doc with
  | object entries => cases step <;> exact (hasChild_object ..).mp hc
  | array items =>
    cases step with
    | index position => exact (hasChild_array_repr ..).mp hc
    | key name =>
      obtain ⟨position, hp⟩ := Option.ne_none_iff_exists'.mp hd
      rw [Step.text, h position hp, hasChild_array_repr] at hc
      rw [child?_array_key items hp]
      exact hc
  | _ => cases hc

/-- A write makes no array of an object, so what could be read there still can. -/
theorem not_discards_putChild {doc : Json} {t : Step} {child : Json}
    (hc : doc.child? t = some child) (s : Step) (v : Json) :
    ¬(doc.putChild s v).discards t := by
  intro hd
  obtain ⟨items, name, hdoc, rfl, hp⟩ := (discards_iff ..).mp hd
  cases doc with
  | object entries =>
    rw [putChild_object] at hdoc
    cases hdoc
  | array others => simp [child?, hp] at hc
  | _ => cases hc

/-! ### A write by one step and a read by another -/

section
variable {doc : Json} {s t : Step} (hs : s.Canonical) (ht : t.Canonical) {child : Json}
  (hc : doc.child? t = some child)
include hs ht hc

theorem child?_of_text_eq (hd : ¬doc.discards s) (he : s.text = t.text) :
    doc.child? s = some child := by
  apply child?_of_hasChild hs hd
  rw [he]
  exact hasChild_of_child? ht hc

theorem child?_putChild_of_text_eq (he : s.text = t.text) (v : Json) :
    (doc.putChild s v).child? t = some v := by
  apply child?_of_hasChild ht (not_discards_putChild hc s v)
  rw [← he, ← addressed_of_canonical doc hs]
  exact hasChild_putChild doc s v

theorem child?_putChild_of_text_ne (hd : ¬doc.discards s) (hne : s.text ≠ t.text) (v : Json) :
    (doc.putChild s v).child? t = some child := by
  apply child?_of_hasChild ht (not_discards_putChild hc s v)
  apply hasChild_putChild_of_ne hd _ (hasChild_of_child? ht hc)
  rw [addressed_of_canonical doc hs]
  exact hne.symm

end

/-! ### Two walks -/

/-- No step of a write discards the array that it meets. -/
def KeepsArrays (steps : List Step) (doc : Json) : Prop :=
  ∀ before step after, steps = before ++ step :: after → ¬(arrived before doc).discards step

theorem keepsArrays_cons (step : Step) (rest : List Step) (doc : Json) :
    KeepsArrays (step :: rest) doc ↔
      ¬doc.discards step ∧ KeepsArrays rest (doc.reached step) := by
  constructor
  · intro h
    refine ⟨h [] step rest rfl, ?_⟩
    rintro before next after rfl
    exact h (step :: before) next after rfl
  · rintro ⟨hstep, hrest⟩ before next after he
    cases before with
    | nil =>
      cases he
      exact hstep
    | cons first before =>
      cases he
      exact hrest before next after rfl

theorem keepsArrays_nil (doc : Json) : KeepsArrays [] doc := by
  intro before step after he
  simp at he

theorem reached_of_child? {doc : Json} {step : Step} {child : Json}
    (h : doc.child? step = some child) : doc.reached step = child := by
  rw [reached, at?_opened, h, Option.getD_some]

theorem read_write_of_diverge {p q : List Step} (hdiv : Step.Diverge p q)
    (hp : ∀ step ∈ p, step.Canonical) (hq : ∀ step ∈ q, step.Canonical) {doc w : Json}
    (hkeeps : KeepsArrays p doc) (h : read q doc = some w) (v : Json) :
    read q (write p v doc) = some w := by
  induction hdiv generalizing doc with
  | @here s t p q hne =>
    obtain ⟨child, hc, hrest⟩ := Option.bind_eq_some_iff.mp h
    obtain ⟨hs, -⟩ := List.forall_mem_cons.mp hp
    obtain ⟨ht, -⟩ := List.forall_mem_cons.mp hq
    have hd := ((keepsArrays_cons ..).mp hkeeps).1
    rw [write_cons_reached, read, child?_putChild_of_text_ne hs ht hc hd hne]
    exact hrest
  | @later s t p q he _ ih =>
    obtain ⟨child, hc, hrest⟩ := Option.bind_eq_some_iff.mp h
    obtain ⟨hs, hp⟩ := List.forall_mem_cons.mp hp
    obtain ⟨ht, hq⟩ := List.forall_mem_cons.mp hq
    obtain ⟨hd, hkeeps⟩ := (keepsArrays_cons ..).mp hkeeps
    -- The write goes on in the child in which the read does.
    have hreached := reached_of_child? (child?_of_text_eq hs ht hc hd he)
    rw [hreached] at hkeeps
    rw [write_cons_reached, read, child?_putChild_of_text_eq hs ht hc he, hreached]
    exact ih hp hq hkeeps hrest

end Json

namespace Path

/-- **What is read along a diverging path is read there after a write.** -/
theorem get?_set_of_diverge (p q : String) (v w doc : Json)
    (hp : ∀ step ∈ (ofText p).steps, step.Canonical)
    (hq : ∀ step ∈ (ofText q).steps, step.Canonical)
    (hdiv : Step.Diverge (ofText p).steps (ofText q).steps)
    (hkeeps : Json.KeepsArrays (ofText p).steps doc) (h : (ofText q).get? doc = some w) :
    (ofText q).get? ((ofText p).set v doc) = some w :=
  Json.read_write_of_diverge hdiv hp hq hkeeps h v

/-- The array becomes an object, and the read walks through it by an index. -/
theorem get?_set_of_diverge_past_padding :
    let p := ofText "items.70000"
    let q := ofText "items[1].a"
    let doc := Json.object [("items", .array [.null, .object [("a", .bool true)]])]
    (∀ step ∈ p.steps, step.Canonical) ∧ (∀ step ∈ q.steps, step.Canonical) ∧
      Step.Diverge p.steps q.steps ∧ Json.KeepsArrays p.steps doc ∧
      q.get? doc = some (.bool true) ∧ q.get? (p.set .null doc) = some (.bool true) := by
  have hp : (ofText "items.70000").steps = [.key "items", .key "70000"] := by decide
  have hq : (ofText "items[1].a").steps = [.key "items", .index 1, .key "a"] := by decide
  have hpc : ∀ step ∈ (ofText "items.70000").steps, step.Canonical := by decide
  have hqc : ∀ step ∈ (ofText "items[1].a").steps, step.Canonical := by decide
  have hdiv : Step.Diverge (ofText "items.70000").steps (ofText "items[1].a").steps := by
    rw [hp, hq]
    exact .later rfl (.here (by decide))
  have hkeeps : Json.KeepsArrays (ofText "items.70000").steps
      (.object [("items", .array [.null, .object [("a", .bool true)]])]) := by
    rw [hp, Json.keepsArrays_cons, Json.keepsArrays_cons]
    have hname : position? "70000" ≠ none := by decide
    exact ⟨id, hname, Json.keepsArrays_nil _⟩
  exact ⟨hpc, hqc, hdiv, hkeeps, rfl,
    get?_set_of_diverge _ _ .null _ _ hpc hqc hdiv hkeeps rfl⟩

end Path
end FieldRules
