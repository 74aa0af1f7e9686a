import FieldRules.Rule.Name
import Mathlib.Data.List.Infix

/-! Names in camel case.

Making a name camel case takes away every underscore that stands between some other
character and a letter or digit. It leaves none behind: what an upper-case form
consists of are no underscores (`Text.capital_or_eq_of_mem_uppercase`), and an
underscore that stays keeps its neighbours (`RuleName.settled_camelizeAfter`). So
registered names are their own camel case.

`RuleName.camelize_camelize`: a second time changes nothing. The first character stays
(`RuleName.head?_camelize`), and no colon, pipe or other mark comes in
(`RuleName.not_mem_camelize`). -/
namespace FieldRules

namespace Text

/-! ### Upper case -/

/-- A capital letter of ASCII, or no character of ASCII at all. -/
def Capital (c : Char) : Prop := 128 ≤ c.toNat ∨ c.isUpper = true

instance (c : Char) : Decidable (Capital c) := inferInstanceAs (Decidable (_ ∨ _))

theorem capital_or_eq_toUpper : ∀ n < 128, Capital (Char.ofNat n).toUpper ∨
    (Char.ofNat n).toUpper = Char.ofNat n := by
  decide

theorem capital_of_mem_expansion : ∀ entry ∈ upperExpansions, ∀ c ∈ entry.2.toList, Capital c := by
  have hall : upperExpansions.all (fun entry => entry.2.toList.all fun c => decide (Capital c)) =
      true := by decide
  simpa only [List.all_eq_true, decide_eq_true_eq] using hall

theorem expansion_ne_nil : ∀ entry ∈ upperExpansions, entry.2.toList ≠ [] := by
  decide

/-- A run leads past ASCII, on one side of the surrogates; or it is one character, and
leads to `I` or `S`. -/
theorem upperRuns_targets : ∀ run ∈ upperRuns,
    (128 ≤ run.target ∧ (run.target + (run.count - 1) * run.stride < 0xD800 ∨
      0xDFFF < run.target ∧ run.target + (run.count - 1) * run.stride < 0x110000)) ∨
    (run.count = 1 ∧ (run.target = 73 ∨ run.target = 83)) := by
  decide +kernel

theorem capital_counterpart {run : Shift} (h : run ∈ upperRuns) {code : Nat}
    (hcovers : run.covers code = true) : Capital (Char.ofNat (run.counterpart code)) := by
  simp only [Shift.covers, Bool.and_eq_true, decide_eq_true_eq] at hcovers
  obtain ⟨⟨hfirst, hlast⟩, -⟩ := hcovers
  rcases upperRuns_targets run h with ⟨hpast, hrange⟩ | ⟨hone, htarget⟩
  · left
    have hvalid : (run.counterpart code).isValidChar := by
      simp only [Nat.isValidChar, Shift.counterpart]
      omega
    rw [Char.ofNat, dif_pos hvalid]
    show 128 ≤ run.counterpart code
    rw [Shift.counterpart]
    omega
  · have hcode : run.counterpart code = run.target := by
      rw [hone, Nat.sub_self, Nat.zero_mul] at hlast
      rw [Shift.counterpart]
      omega
    rw [hcode]
    rcases htarget with h | h <;> rw [h] <;> decide

/-- In an upper-case form stand capitals, or the character itself. -/
theorem capital_or_eq_of_mem_uppercase {c d : Char} (h : c ∈ uppercase d) : Capital c ∨ c = d := by
  unfold uppercase at h
  split at h
  · rename_i hascii
    have hd := capital_or_eq_toUpper d.toNat hascii
    rw [Char.ofNat_toNat] at hd
    obtain rfl := List.mem_singleton.mp h
    exact hd
  · split at h
    · rename_i hfind
      exact .inl (capital_of_mem_expansion _ (List.mem_of_find?_eq_some hfind) c h)
    · split at h
      · rename_i run hfind
        have hcovers := List.find?_some (p := fun run : Shift => run.covers d.toNat) hfind
        obtain rfl := List.mem_singleton.mp h
        exact .inl (capital_counterpart (List.mem_of_find?_eq_some hfind) hcovers)
      · exact .inr (List.mem_singleton.mp h)

theorem uppercase_ne_nil (c : Char) : uppercase c ≠ [] := by
  unfold uppercase
  split
  · exact List.cons_ne_nil _ _
  · split
    · rename_i hfind
      exact expansion_ne_nil _ (List.mem_of_find?_eq_some hfind)
    · split <;> exact List.cons_ne_nil _ _

theorem ne_underscore_of_alphanumeric {c : Char} (h : alphanumeric c = true) : c ≠ '_' := by
  rintro rfl
  exact absurd h (by decide)

theorem underscore_not_mem_uppercase {c : Char} (h : alphanumeric c = true) :
    '_' ∉ uppercase c := by
  intro hmem
  rcases capital_or_eq_of_mem_uppercase hmem with hcapital | rfl
  · exact absurd hcapital (by decide)
  · exact ne_underscore_of_alphanumeric h rfl

end Text

namespace RuleName
open Text

/-! ### Underscores that stay -/

/-- No underscore stands between some other character and a letter or digit. -/
def Settled (text : List Char) : Prop :=
  ∀ a next, [a, '_', next] <:+: text → a = '_' ∨ alphanumeric next = false

theorem settled_cons (a : Char) (text : List Char) :
    Settled (a :: text) ↔
      (∀ next rest, text = '_' :: next :: rest → a = '_' ∨ alphanumeric next = false) ∧
        Settled text := by
  constructor
  · intro h
    refine ⟨?_, fun b next hin => h b next (List.infix_cons hin)⟩
    rintro next rest rfl
    exact h a next ⟨[], rest, rfl⟩
  · rintro ⟨hfirst, hlater⟩ b next hin
    rcases List.infix_cons_iff.mp hin with ⟨rest, heq⟩ | hin
    · cases heq
      exact hfirst next rest rfl
    · exact hlater b next hin

theorem settled_cons_of_ne {a b : Char} (hb : b ≠ '_') (text : List Char) :
    Settled (a :: b :: text) ↔ Settled (b :: text) := by
  rw [settled_cons]
  refine and_iff_right ?_
  intro next rest heq
  cases heq
  exact absurd rfl hb

theorem settled_of_short {text : List Char} (h : text.length < 3) : Settled text :=
  fun _ _ hin => absurd hin.length_le (Nat.not_le.mpr h)

theorem Settled.drop {front text : List Char} (h : Settled (front ++ text)) : Settled text :=
  fun a next hin => h a next (hin.trans (List.suffix_append front text).isInfix)

/-- What stands before a text does not count, but for its being no underscore. -/
theorem settled_append {front text : List Char} {b : Char} (hb : b ≠ '_')
    (h : Settled (b :: text)) (hne : front ≠ []) (hfront : '_' ∉ front) :
    Settled (front ++ text) := by
  induction front with
  | nil => exact absurd rfl hne
  | cons a front ih =>
    obtain ⟨ha, hfront⟩ := List.ne_and_not_mem_of_not_mem_cons hfront
    cases front with
    | nil =>
      obtain ⟨hfirst, hlater⟩ := (settled_cons b text).mp h
      refine (settled_cons a text).mpr ⟨fun next rest heq => ?_, hlater⟩
      exact .inr ((hfirst next rest heq).resolve_left hb)
    | cons c front =>
      have hc : c ≠ '_' := (List.ne_and_not_mem_of_not_mem_cons hfront).1.symm
      exact (settled_cons_of_ne hc _).mpr (ih (List.cons_ne_nil _ _) hfront)

/-! ### Camel case -/

/-- At the beginning, after an underscore, and unless it is one, a character is kept. -/
theorem camelizeAfter_cons {previous : Option Char} {c : Char}
    (h : c ≠ '_' ∨ previous = none ∨ previous = some '_') (rest : List Char) :
    camelizeAfter previous (c :: rest) = c :: camelizeAfter (some c) rest := by
  by_cases hc : c = '_'
  · subst hc
    cases rest with
    | nil => rfl
    | cons next rest =>
      have hkept : (previous.isSome && previous ≠ some '_' && alphanumeric next) = false := by
        rcases h with h | rfl | rfl
        · exact absurd rfl h
        · rfl
        · rfl
      rw [camelizeAfter, hkept]
      rfl
  · rw [camelizeAfter]
    exact fun _ _ he => absurd he hc

/-- In camel case no underscore is left to be taken away. -/
theorem settled_camelizeAfter (previous : Option Char) (text : List Char) :
    Settled (previous.toList ++ camelizeAfter previous text) := by
  induction previous, text using camelizeAfter.induct with
  | case1 previous next rest hgoes ih =>
    have hfront : '_' ∉ previous.toList ++ uppercase next := by
      simp only [Bool.and_eq_true, decide_eq_true_eq] at hgoes
      simpa [underscore_not_mem_uppercase hgoes.2] using hgoes.1.2
    have hnext : alphanumeric next = true := (Bool.and_eq_true_iff.mp hgoes).2
    rw [camelizeAfter, if_pos hgoes, ← List.append_assoc]
    exact settled_append (ne_underscore_of_alphanumeric hnext) ih
      (by simp [uppercase_ne_nil]) hfront
  | case2 previous next rest hstays ih =>
    rw [camelizeAfter, if_neg hstays]
    cases previous with
    | none => exact ih
    | some a =>
      refine (settled_cons a _).mpr ⟨fun other later heq => ?_, ih⟩
      -- The underscore keeps the neighbour that it has.
      rw [camelizeAfter_cons (.inr (.inr rfl))] at heq
      cases heq
      simpa [imp_iff_or_not, or_comm] using hstays
  | case3 previous c rest hc ih =>
    rw [camelizeAfter]
    · cases previous with
      | none => exact ih
      | some a =>
        refine (settled_cons a _).mpr ⟨fun next later heq => ?_, ih⟩
        cases rest with
        | nil => cases heq
        | cons other rest => exact absurd rfl (hc other rest (List.cons.inj heq).1)
    · exact hc
  | case4 previous => exact settled_of_short (by cases previous <;> simp [camelizeAfter])

theorem camelizeAfter_of_settled (previous : Option Char) (text : List Char)
    (h : Settled (previous.toList ++ text)) : camelizeAfter previous text = text := by
  induction previous, text using camelizeAfter.induct with
  | case1 previous next rest hgoes ih =>
    simp only [Bool.and_eq_true, decide_eq_true_eq] at hgoes
    obtain ⟨⟨hsome, hprevious⟩, hnext⟩ := hgoes
    obtain ⟨a, rfl⟩ := Option.isSome_iff_exists.mp hsome
    rcases ((settled_cons a _).mp h).1 next rest rfl with rfl | hother
    · exact absurd rfl hprevious
    · exact absurd hnext (by simp [hother])
  | case2 previous next rest hstays ih =>
    rw [camelizeAfter, if_neg hstays, ih h.drop]
  | case3 previous c rest hc ih =>
    rw [camelizeAfter, ih h.drop]
    exact hc
  | case4 previous => rfl

theorem toList_camelize (name : String) :
    (camelize name).toList = camelizeAfter none name.toList :=
  String.toList_ofList

/-- The camel case of names is what has no underscore to take away. -/
theorem settled_camelize (name : String) : Settled (camelize name).toList := by
  rw [toList_camelize]
  exact settled_camelizeAfter none name.toList

theorem camelize_of_settled {name : String} (h : Settled name.toList) : camelize name = name := by
  rw [camelize, camelizeAfter_of_settled none name.toList h, String.ofList_toList]

/-- A second time nothing changes. -/
theorem camelize_camelize (name : String) : camelize (camelize name) = camelize name :=
  camelize_of_settled (settled_camelize name)

/-! ### What becomes of the characters -/

/-- The first character stays. -/
theorem head?_camelize (name : String) : (camelize name).toList.head? = name.toList.head? := by
  rw [toList_camelize]
  cases name.toList with
  | nil => rfl
  | cons c rest => rw [camelizeAfter_cons (.inr (.inl rfl)), List.head?_cons, List.head?_cons]

theorem camelize_eq_empty_iff (name : String) : camelize name = "" ↔ name = "" := by
  rw [← String.toList_eq_nil_iff, ← String.toList_eq_nil_iff, ← List.head?_eq_none_iff,
    head?_camelize, List.head?_eq_none_iff]

theorem capital_or_mem_of_mem_camelizeAfter {previous : Option Char} {text : List Char} {c : Char}
    (h : c ∈ camelizeAfter previous text) : Capital c ∨ c ∈ text := by
  induction previous, text using camelizeAfter.induct with
  | case1 previous next rest hgoes ih =>
    rw [camelizeAfter, if_pos hgoes] at h
    rcases List.mem_append.mp h with hupper | hrest
    · exact (capital_or_eq_of_mem_uppercase hupper).imp_right fun he => by simp [he]
    · exact (ih hrest).imp_right fun hmem => by simp [hmem]
  | case2 previous next rest hstays ih =>
    rw [camelizeAfter, if_neg hstays] at h
    rcases List.mem_cons.mp h with rfl | hrest
    · exact .inr (List.mem_cons_self ..)
    · exact (ih hrest).imp_right (List.mem_cons_of_mem _)
  | case3 previous c rest hc ih =>
    rw [camelizeAfter] at h
    · rcases List.mem_cons.mp h with rfl | hrest
      · exact .inr (List.mem_cons_self ..)
      · exact (ih hrest).imp_right (List.mem_cons_of_mem _)
    · exact hc
  | case4 previous => cases h

/-- But for capitals no character comes in. -/
theorem not_mem_camelize {name : String} {c : Char} (hc : ¬Capital c) (h : c ∉ name.toList) :
    c ∉ (camelize name).toList := by
  rw [toList_camelize]
  exact fun hmem => (capital_or_mem_of_mem_camelizeAfter hmem).elim hc h

end RuleName
end FieldRules
