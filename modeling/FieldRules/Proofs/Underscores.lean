import FieldRules.Proofs.CamelCase

/-! What becomes of a name place by place.

Camel case is made in one pass over a name. What the pass does can be said of each place by
itself, from the name as it was written: there is an underscore that goes
(`RuleName.Goes`), or a character that becomes upper case because the underscore in front of
it goes, or a character that is kept (`RuleName.becomes`).

`RuleName.camelize_places`: the camel case of a name is what becomes of its places, in their
order. No underscore is left in it that would go, so it is its own camel case. -/
namespace FieldRules.RuleName
open Text

/-! ### Places -/

/-- An underscore goes if it is not the first character, is not behind another underscore,
and is in front of a letter or digit. -/
def Goes (name : List Char) (place : Nat) : Prop :=
  name[place]? = some '_' ∧ place ≠ 0 ∧ name[place - 1]? ≠ some '_' ∧
    name[place + 1]?.any alphanumeric = true

instance (name : List Char) (place : Nat) : Decidable (Goes name place) :=
  inferInstanceAs (Decidable (_ ∧ _ ∧ _ ∧ _))

/-- What becomes of the character at a place. In front of the first place there is none, and
nothing that goes either. -/
def becomes (name : List Char) (place : Nat) : List Char :=
  match name[place]? with
  | none => []
  | some c =>
    if Goes name place then []
    else if Goes name (place - 1) then uppercase c
    else [c]

theorem not_goes_zero (name : List Char) : ¬Goes name 0 := fun h => h.2.1 rfl

section
variable {name front rest : List Char} {c : Char} (h : name = front ++ c :: rest)
include h

theorem getElem?_between : name[front.length]? = some c := by simp [h]

/-- What stands in front of a place and behind it decides. -/
theorem goes_iff :
    Goes name front.length ↔
      c = '_' ∧ (∃ previous, front.getLast? = some previous ∧ previous ≠ '_') ∧
        rest.head?.any alphanumeric = true := by
  have hbehind : name[front.length + 1]? = rest.head? := by
    simp [h, List.getElem?_append_right, List.head?_eq_getElem?]
  rw [Goes, getElem?_between h, hbehind, Option.some.injEq]
  cases hlast : front.getLast? with
  | none => simp [List.getLast?_eq_none_iff.mp hlast]
  | some previous =>
    have hne : front ≠ [] := by
      intro hnil
      simp [hnil] at hlast
    have hpos : 0 < front.length := List.length_pos_iff.mpr hne
    have hfront : name[front.length - 1]? = some previous := by
      rw [h, List.getElem?_append_left (by omega), ← List.getLast?_eq_getElem?, hlast]
    rw [hfront]
    simp [hne]

theorem becomes_of_goes (hgoes : Goes name front.length) : becomes name front.length = [] := by
  rw [becomes, getElem?_between h]
  exact if_pos hgoes

theorem becomes_of_not_goes (hstays : ¬Goes name front.length) :
    becomes name front.length = if Goes name (front.length - 1) then uppercase c else [c] := by
  rw [becomes, getElem?_between h]
  exact if_neg hstays

end

/-- What the pass asks of an underscore is whether it goes. -/
theorem goes_iff_asked {name front rest : List Char} {next : Char}
    (h : name = front ++ '_' :: next :: rest) {previous : Option Char}
    (hprevious : front.getLast? = previous) :
    Goes name front.length ↔
      (previous.isSome && previous ≠ some '_' && alphanumeric next) = true := by
  rw [goes_iff h, hprevious]
  cases previous <;> simp

/-- What becomes of the place behind some characters comes before what becomes of the rest. -/
theorem flatMap_becomes_cons (name front : List Char) (c : Char) (rest : List Char) :
    (List.range' front.length (c :: rest).length).flatMap (becomes name) =
      becomes name front.length ++
        (List.range' (front ++ [c]).length rest.length).flatMap (becomes name) := by
  simp [List.range'_succ]

/-! ### The pass -/

/-- The pass makes of each place what becomes of it. It never stops behind an underscore
that goes, but takes the character behind it along. -/
theorem camelizeAfter_eq_flatMap {name front text : List Char} (hname : name = front ++ text)
    {previous : Option Char} (hprevious : front.getLast? = previous)
    (hfront : ¬Goes name (front.length - 1)) :
    camelizeAfter previous text =
      (List.range' front.length text.length).flatMap (becomes name) := by
  induction previous, text using camelizeAfter.induct generalizing front with
  | case1 previous next rest hgoes ih =>
    have hnext : alphanumeric next = true := (Bool.and_eq_true_iff.mp hgoes).2
    have hbehind : name = (front ++ ['_']) ++ next :: rest := by simp [hname]
    have hlater : name = (front ++ ['_'] ++ [next]) ++ rest := by simp [hname]
    have hhere : Goes name front.length := (goes_iff_asked hname hprevious).mpr hgoes
    have hthere : ¬Goes name (front ++ ['_']).length := fun h =>
      ne_underscore_of_alphanumeric hnext ((goes_iff hbehind).mp h).1
    have hupper : becomes name (front ++ ['_']).length = uppercase next := by
      rw [becomes_of_not_goes hbehind hthere]
      exact if_pos (by simpa using hhere)
    rw [camelizeAfter, if_pos hgoes, flatMap_becomes_cons, becomes_of_goes hname hhere,
      flatMap_becomes_cons, hupper, List.nil_append]
    exact congrArg _ (ih hlater (by simp) (by simpa using hthere))
  | case2 previous next rest hstays ih =>
    have hlater : name = (front ++ ['_']) ++ next :: rest := by simp [hname]
    have hhere : ¬Goes name front.length := fun h => hstays ((goes_iff_asked hname hprevious).mp h)
    rw [camelizeAfter, if_neg hstays, flatMap_becomes_cons, becomes_of_not_goes hname hhere,
      if_neg hfront]
    exact congrArg _ (ih hlater (by simp) (by simpa using hhere))
  | case3 previous c rest hc ih =>
    have hlater : name = (front ++ [c]) ++ rest := by simp [hname]
    have hhere : ¬Goes name front.length := by
      rw [goes_iff hname]
      intro hgoes
      obtain ⟨rfl, -, hnext⟩ := hgoes
      cases rest with
      | nil => cases hnext
      | cons next rest => exact hc next rest rfl rfl
    rw [camelizeAfter, flatMap_becomes_cons, becomes_of_not_goes hname hhere, if_neg hfront]
    · exact congrArg _ (ih hlater (by simp) (by simpa using hhere))
    · exact hc
  | case4 previous => rfl

/-- An underscore that goes stands between some other character and a letter or digit. -/
theorem not_goes_of_settled {text : List Char} (h : Settled text) (place : Nat) :
    ¬Goes text place := by
  intro ⟨hhere, hfirst, hfront, hbehind⟩
  obtain ⟨next, hnext, hletter⟩ := (Option.any_eq_true ..).mp hbehind
  obtain ⟨hlt, -⟩ := List.getElem?_eq_some_iff.mp hnext
  obtain ⟨a, ha⟩ : ∃ a, text[place - 1]? = some a :=
    ⟨_, List.getElem?_eq_getElem (by omega : place - 1 < text.length)⟩
  have hinfix : [a, '_', next] <:+: text := by
    refine List.infix_iff_getElem?.mpr ⟨place - 1, ?_, ?_⟩
    · simp only [List.length_cons, List.length_nil]
      omega
    · intro i hi
      have hplace : 1 + (place - 1) = place := by omega
      have hlater : 2 + (place - 1) = place + 1 := by omega
      match i, hi with
      | 0, _ => simpa using ha
      | 1, _ => simpa [hplace] using hhere
      | 2, _ => simpa [hlater] using hnext
  rcases h a next hinfix with rfl | hother
  · exact hfront ha
  · exact absurd hletter (by simp [hother])

/-- **Camel case place by place**: of the underscores in a name those go that are behind
some other character and in front of a letter or digit, that letter or digit becomes upper
case, and all else is kept. In what comes out no underscore would go, and so a second time
nothing changes. -/
theorem camelize_places (name : String) :
    (camelize name).toList =
        (List.range name.toList.length).flatMap (becomes name.toList) ∧
      (∀ place, ¬Goes (camelize name).toList place) ∧
      camelize (camelize name) = camelize name := by
  refine ⟨?_, not_goes_of_settled (settled_camelize name), camelize_camelize name⟩
  rw [toList_camelize, List.range_eq_range']
  exact @camelizeAfter_eq_flatMap _ [] _ rfl _ rfl (not_goes_zero name.toList)

/-- The first of two underscores stays, and so does one with no letter or digit behind it. -/
example : (List.range 8).map (becomes "a_b__c_-".toList) =
    [['a'], [], ['B'], ['_'], ['_'], ['c'], ['_'], ['-']] := by
  decide +kernel

end FieldRules.RuleName
