import FieldRules.Pattern.Matching
import Mathlib.Data.Nat.Bitwise
import Mathlib.Logic.Function.Iterate

/-! Where matches of a pattern begin and end.

`Pattern.Spans` says from which place of a text to which a pattern has a match, place by
place. A search carries whole sets of places instead: what it does with a set is what the
relation does with each place in it (`Carries`), and that is kept when searches follow
each other, stand beside each other and are repeated. A match goes forwards and stays in
the text, so a repetition without a bound needs no more turns than there are characters
(`Turns.shorten`).

`Pattern.matchesChars_iff`: so the search finds a match exactly if there is one. -/
namespace FieldRules
open Text

/-! ### Sets of places -/

namespace Places

/-- No place is past the end of a text of that length. -/
def Within (length places : Nat) : Prop := ∀ i, places.testBit i = true → i ≤ length

theorem testBit_zero_bit (n : Nat) (b : Bool) : (2 * n + b.toNat).testBit 0 = b := by
  cases b <;> simp

theorem testBit_succ_bit (n : Nat) (b : Bool) (i : Nat) :
    (2 * n + b.toNat).testBit (i + 1) = n.testBit i := by
  have hhalf : (2 * n + b.toNat) / 2 = n := by
    have := b.toNat_lt
    omega
  rw [Nat.testBit_succ, hhalf]

theorem testBit_ofCharacters (test : Char → Bool) (text : List Char) (i : Nat) :
    (ofCharacters test text).testBit i = true ↔ ∃ c, text[i]? = some c ∧ test c = true := by
  induction text generalizing i with
  | nil => simp [ofCharacters]
  | cons c rest ih =>
    cases i with
    | zero =>
      rw [ofCharacters, testBit_zero_bit]
      simp
    | succ i => simpa [ofCharacters, testBit_succ_bit] using ih i

theorem testBit_ofLiteral (literal text : List Char) (i : Nat) :
    (ofLiteral literal text).testBit i = true ↔ i ≤ text.length ∧ literal <+: text.drop i := by
  induction text generalizing i with
  | nil => cases i <;> cases literal <;> simp [ofLiteral, Nat.testBit_succ]
  | cons c rest ih =>
    cases i with
    | zero =>
      rw [ofLiteral, testBit_zero_bit, List.isPrefixOf_iff_prefix]
      simp
    | succ i => simpa [ofLiteral, testBit_succ_bit] using ih i

/-- The character before a place, where another text may come before the whole one. -/
def before (previous : Option Char) (text : List Char) : Nat → Option Char
  | 0 => previous
  | i + 1 => text[i]?

theorem testBit_ofNeighbours (test : Option Char → Option Char → Bool) (previous : Option Char)
    (text : List Char) (i : Nat) :
    (ofNeighbours test previous text).testBit i = true ↔
      i ≤ text.length ∧ test (before previous text i) text[i]? = true := by
  induction text generalizing previous i with
  | nil =>
    cases i with
    | zero => cases h : test previous none <;> simp [ofNeighbours, before, h]
    | succ i => cases h : test previous none <;> simp [ofNeighbours, h, Nat.testBit_succ]
  | cons c rest ih =>
    cases i with
    | zero =>
      rw [ofNeighbours, testBit_zero_bit]
      simp [before]
    | succ i =>
      have hbefore : before (some c) rest i = before previous (c :: rest) (i + 1) := by
        cases i <;> rfl
      simpa [ofNeighbours, testBit_succ_bit, hbefore] using ih (some c) i

theorem testBit_all (text : List Char) (i : Nat) :
    (all text).testBit i = true ↔ i ≤ text.length := by
  show (2 ^ (text.length + 1) - 1).testBit i = true ↔ _
  rw [Nat.testBit_two_pow_sub_one, decide_eq_true_iff, Nat.lt_succ_iff]

/-- Ending early makes no difference. -/
theorem iterated_eq (step : Nat → Nat) (count places : Nat) :
    iterated step count places = step^[count] places := by
  induction count generalizing places with
  | zero => rfl
  | succ count ih =>
    rw [iterated, Function.iterate_succ_apply, ih]
    split
    · rename_i hsame
      rw [hsame]
      exact (Function.iterate_fixed hsame count).symm
    · rfl

end Places

/-! ### Turns of a relation -/

/-- So many steps of the relation, one after the other. -/
inductive Turns (r : Nat → Nat → Prop) : Nat → Nat → Nat → Prop where
  | none {i : Nat} : Turns r 0 i i
  | more {n i j k : Nat} : r i j → Turns r n j k → Turns r (n + 1) i k

namespace Turns
variable {r : Nat → Nat → Prop}

theorem append {m n i j k : Nat} (h : Turns r m i j) (h' : Turns r n j k) :
    Turns r (m + n) i k := by
  induction h with
  | none => rwa [Nat.zero_add]
  | more hr _ ih =>
    rw [Nat.succ_add]
    exact .more hr (ih h')

theorem split {m n i k : Nat} (h : Turns r (m + n) i k) :
    ∃ j, Turns r m i j ∧ Turns r n j k := by
  induction m generalizing i with
  | zero => exact ⟨i, .none, by rwa [Nat.zero_add] at h⟩
  | succ m ih =>
    rw [Nat.succ_add] at h
    cases h with
    | more hr h =>
      obtain ⟨j, hfirst, hrest⟩ := ih h
      exact ⟨j, .more hr hfirst, hrest⟩

end Turns

/-! ### Searches -/

/-- The step does with sets of places what the relation does with places, and that leads
forwards and not out of the text. -/
structure Carries (length : Nat) (step : Nat → Nat) (r : Nat → Nat → Prop) : Prop where
  testBit_iff : ∀ {places}, Places.Within length places → ∀ j,
    (step places).testBit j = true ↔ ∃ i, places.testBit i = true ∧ r i j
  le : ∀ {i j}, r i j → i ≤ j
  le_length : ∀ {i j}, r i j → i ≤ length → j ≤ length

namespace Carries
variable {length : Nat} {step step' : Nat → Nat} {r r' : Nat → Nat → Prop}

theorem within (h : Carries length step r) {places : Nat} (hwithin : Places.Within length places) :
    Places.Within length (step places) := by
  intro j hj
  obtain ⟨i, hi, hr⟩ := (h.testBit_iff hwithin j).mp hj
  exact h.le_length hr (hwithin i hi)

theorem stay : Carries length (fun places => places) (fun i j => j = i) where
  testBit_iff _ j := by simp
  le h := Nat.le_of_eq h.symm
  le_length h hi := h ▸ hi

/-- Over characters that are there. -/
theorem advance {here count : Nat} (hthere : ∀ i, here.testBit i = true → i + count ≤ length) :
    Carries length (fun places => (places &&& here) <<< count)
      (fun i j => here.testBit i = true ∧ j = i + count) where
  testBit_iff _ j := by
    simp only [Nat.testBit_shiftLeft, Nat.testBit_and, Bool.and_eq_true, decide_eq_true_eq]
    constructor
    · rintro ⟨hle, hplace, hhere⟩
      exact ⟨j - count, hplace, hhere, (Nat.sub_add_cancel hle).symm⟩
    · rintro ⟨i, hplace, hhere, rfl⟩
      rw [Nat.add_sub_cancel]
      exact ⟨Nat.le_add_left .., hplace, hhere⟩
  le h := h.2 ▸ Nat.le_add_right ..
  le_length h _ := h.2 ▸ hthere _ h.1

theorem check {here : Nat} :
    Carries length (fun places => places &&& here) (fun i j => here.testBit i = true ∧ j = i) where
  testBit_iff _ j := by
    simp only [Nat.testBit_and, Bool.and_eq_true]
    constructor
    · rintro ⟨hplace, hhere⟩
      exact ⟨j, hplace, hhere, rfl⟩
    · rintro ⟨i, hplace, hhere, rfl⟩
      exact ⟨hplace, hhere⟩
  le h := Nat.le_of_eq h.2.symm
  le_length h hi := h.2 ▸ hi

theorem seq (h : Carries length step r) (h' : Carries length step' r') :
    Carries length (fun places => step' (step places)) (fun i j => ∃ k, r i k ∧ r' k j) where
  testBit_iff hwithin j := by
    rw [h'.testBit_iff (h.within hwithin)]
    constructor
    · rintro ⟨k, hk, hr'⟩
      obtain ⟨i, hi, hr⟩ := (h.testBit_iff hwithin k).mp hk
      exact ⟨i, hi, k, hr, hr'⟩
    · rintro ⟨i, hi, k, hr, hr'⟩
      exact ⟨k, (h.testBit_iff hwithin k).mpr ⟨i, hi, hr⟩, hr'⟩
  le := fun ⟨_, hr, hr'⟩ => Nat.le_trans (h.le hr) (h'.le hr')
  le_length := fun ⟨_, hr, hr'⟩ hi => h'.le_length hr' (h.le_length hr hi)

theorem either (h : Carries length step r) (h' : Carries length step' r') :
    Carries length (fun places => step places ||| step' places) (fun i j => r i j ∨ r' i j) where
  testBit_iff hwithin j := by
    rw [Nat.testBit_or, Bool.or_eq_true, h.testBit_iff hwithin, h'.testBit_iff hwithin,
      ← exists_or]
    simp only [and_or_left]
  le := fun hr => hr.elim h.le h'.le
  le_length := fun hr hi => hr.elim (h.le_length · hi) (h'.le_length · hi)

/-! ### Repetitions -/

theorem iterate (h : Carries length step r) (n : Nat) :
    Carries length step^[n] (Turns r n) := by
  induction n with
  | zero =>
    have hturns : Turns r 0 = fun i j => j = i := by
      funext i j
      refine propext ⟨fun ht => ?_, fun he => he ▸ .none⟩
      cases ht
      rfl
    rw [hturns]
    exact .stay
  | succ n ih =>
    have hturns : Turns r (n + 1) = fun i j => ∃ k, r i k ∧ Turns r n k j := by
      funext i j
      refine propext ⟨fun ht => ?_, fun ⟨k, hr, ht⟩ => .more hr ht⟩
      cases ht with
      | more hr ht => exact ⟨_, hr, ht⟩
    rw [hturns]
    exact h.seq ih

/-- Turns that stay where they are can be left out. -/
theorem shorten (h : Carries length step r) {n i j : Nat} (hturns : Turns r n i j) :
    i ≤ j ∧ ∃ m ≤ j - i, Turns r m i j := by
  induction hturns with
  | none => exact ⟨Nat.le_refl _, 0, Nat.zero_le _, .none⟩
  | @more n i k j hr _ ih =>
    obtain ⟨hle, m, hm, ht⟩ := ih
    have hik := h.le hr
    refine ⟨Nat.le_trans hik hle, ?_⟩
    rcases Nat.eq_or_lt_of_le hik with rfl | hlt
    · exact ⟨m, hm, ht⟩
    · exact ⟨m + 1, by omega, .more hr ht⟩

theorem lazy {n i j : Nat} :
    Turns (fun i j => j = i ∨ r i j) n i j ↔ ∃ m ≤ n, Turns r m i j := by
  constructor
  · intro h
    induction h with
    | none => exact ⟨0, Nat.le_refl _, .none⟩
    | more hr _ ih =>
      obtain ⟨m, hm, ht⟩ := ih
      rcases hr with rfl | hr
      · exact ⟨m, Nat.le_succ_of_le hm, ht⟩
      · exact ⟨m + 1, Nat.succ_le_succ hm, .more hr ht⟩
  · rintro ⟨m, hm, ht⟩
    induction ht generalizing n with
    | none =>
      clear hm
      induction n with
      | zero => exact .none
      | succ n ih => exact .more (.inl rfl) ih
    | more hr _ ih =>
      obtain ⟨n, rfl⟩ : ∃ k, n = k + 1 := ⟨n - 1, by omega⟩
      exact .more (.inr hr) (ih (Nat.le_of_succ_le_succ hm))

theorem reached (h : Carries length step r) (n : Nat) :
    Carries length (Places.reached step n) (fun i j => ∃ m ≤ n, Turns r m i j) := by
  have hlazy := (stay.either h).iterate n
  have hstep : Places.reached step n = (fun seen => seen ||| step seen)^[n] :=
    funext fun places => Places.iterated_eq _ n places
  have hturns : Turns (fun i j => j = i ∨ r i j) n = fun i j => ∃ m ≤ n, Turns r m i j :=
    funext fun i => funext fun j => propext lazy
  rwa [hturns, ← hstep] at hlazy

/-- At least so many turns, and up to so many more. -/
theorem repeated (h : Carries length step r) (least more : Nat) :
    Carries length (fun places => Places.reached step more (Places.iterated step least places))
      (fun i j => ∃ n, least ≤ n ∧ n ≤ least + more ∧ Turns r n i j) := by
  have hboth := (h.iterate least).seq (h.reached more)
  have hstep : (Places.iterated step least) = step^[least] :=
    funext (Places.iterated_eq step least)
  rw [hstep]
  have hturns : (fun i j => ∃ k, Turns r least i k ∧ ∃ m ≤ more, Turns r m k j) =
      fun i j => ∃ n, least ≤ n ∧ n ≤ least + more ∧ Turns r n i j := by
    funext i j
    refine propext ⟨?_, ?_⟩
    · rintro ⟨k, hfirst, m, hm, hrest⟩
      exact ⟨least + m, Nat.le_add_right .., Nat.add_le_add_left hm _, hfirst.append hrest⟩
    · rintro ⟨n, hleast, hmost, ht⟩
      obtain ⟨m, rfl⟩ := Nat.exists_eq_add_of_le hleast
      obtain ⟨k, hfirst, hrest⟩ := ht.split
      exact ⟨k, hfirst, m, Nat.le_of_add_le_add_left hmost, hrest⟩
  rwa [hturns] at hboth

/-- More turns than there are characters lead nowhere else. -/
theorem unbounded (h : Carries length step r) (least : Nat) :
    Carries length
      (fun places => Places.reached step (length + 1) (Places.iterated step least places))
      (fun i j => ∃ n, least ≤ n ∧ Turns r n i j) := by
  have hbounded := h.repeated least (length + 1)
  have hle : ∀ {i j}, (∃ n, least ≤ n ∧ Turns r n i j) → i ≤ j :=
    fun ⟨_, _, ht⟩ => (h.shorten ht).1
  have hshort : ∀ {i j}, i ≤ length → ((∃ n, least ≤ n ∧ Turns r n i j) ↔
      ∃ n, least ≤ n ∧ n ≤ least + (length + 1) ∧ Turns r n i j) := by
    intro i j hi
    constructor
    · rintro ⟨n, hn, ht⟩
      obtain ⟨extra, rfl⟩ := Nat.exists_eq_add_of_le hn
      obtain ⟨k, hfirst, hrest⟩ := ht.split
      obtain ⟨-, m, hm, hrest⟩ := h.shorten hrest
      have hj : j ≤ length := (h.iterate _).le_length ht hi
      exact ⟨least + m, Nat.le_add_right .., by omega, hfirst.append hrest⟩
    · rintro ⟨n, hn, -, ht⟩
      exact ⟨n, hn, ht⟩
  constructor
  · intro places hwithin j
    rw [hbounded.testBit_iff hwithin]
    exact exists_congr fun i => and_congr_right fun hi => (hshort (hwithin i hi)).symm
  · exact hle
  · exact fun hr hi => hbounded.le_length ((hshort hi).mp hr) hi

end Carries

/-! ### Patterns -/

namespace Pattern

/-- The pattern has a match from one place of the text to another. -/
def Spans (text : List Char) : Pattern → Nat → Nat → Prop
  | empty => fun i j => j = i
  | literal s => fun i j => (i ≤ text.length ∧ s <+: text.drop i) ∧ j = i + s.length
  | one set _ => fun i j => (∃ c, text[i]? = some c ∧ set.boundaries.contains c = true) ∧ j = i + 1
  | look assertion => fun i j =>
    (i ≤ text.length ∧ assertion.holds (Places.before none text i) text[i]? = true) ∧ j = i
  | seq first rest => fun i j => ∃ k, first.Spans text i k ∧ rest.Spans text k j
  | either first rest => fun i j => first.Spans text i j ∨ rest.Spans text i j
  | repeated body least most _ => fun i j =>
    ∃ n, least ≤ n ∧ (∀ m, most = some m → n ≤ max least m) ∧ Turns (body.Spans text) n i j
  | group _ body => body.Spans text

/-- The search for a pattern carries places to where its matches end. -/
theorem carries_ends (text : List Char) (p : Pattern) :
    Carries text.length (p.along text).ends (p.Spans text) := by
  induction p with
  | empty => exact .stay
  | literal s =>
    have hthere : ∀ i, (Places.ofLiteral s text).testBit i = true →
        i + s.length ≤ text.length := by
      intro i hi
      obtain ⟨hle, hprefix⟩ := (Places.testBit_ofLiteral s text i).mp hi
      have hlength := hprefix.length_le
      rw [List.length_drop] at hlength
      omega
    have hcarries := Carries.advance hthere
    simp only [Places.testBit_ofLiteral] at hcarries
    exact hcarries
  | one set unicode =>
    have hthere : ∀ i, (Places.ofCharacters set.boundaries.contains text).testBit i = true →
        i + 1 ≤ text.length := by
      intro i hi
      obtain ⟨c, hc, -⟩ := (Places.testBit_ofCharacters _ text i).mp hi
      exact (List.getElem?_eq_some_iff.mp hc).1
    have hcarries := Carries.advance hthere
    simp only [Places.testBit_ofCharacters] at hcarries
    exact hcarries
  | look assertion =>
    have hcarries : Carries text.length
        (fun places => places &&& Places.ofNeighbours assertion.holds none text) _ := .check
    simp only [Places.testBit_ofNeighbours] at hcarries
    exact hcarries
  | seq first rest ihfirst ihrest => exact ihfirst.seq ihrest
  | either first rest ihfirst ihrest => exact ihfirst.either ihrest
  | repeated body least most greedy ih =>
    cases most with
    | none => simpa [Spans, along, Track.ends] using ih.unbounded least
    | some most =>
      have hmost : least + (most - least) = max least most := by omega
      have hcarries := ih.repeated least (most - least)
      rw [hmost] at hcarries
      simpa [Spans, along, Track.ends] using hcarries
  | group number body ih => exact ih

/-- **A text matches if the pattern has a match in it**, from some place to some other. -/
theorem matchesChars_iff (p : Pattern) (text : List Char) :
    p.matchesChars text = true ↔ ∃ i j, i ≤ text.length ∧ p.Spans text i j := by
  have hwithin : Places.Within text.length (Places.all text) :=
    fun i hi => (Places.testBit_all text i).mp hi
  have hends := (carries_ends text p).testBit_iff hwithin
  rw [matchesChars, bne_iff_ne]
  constructor
  · intro hne
    obtain ⟨j, hj⟩ := Nat.exists_testBit_of_ne_zero hne
    obtain ⟨i, hi, hspans⟩ := (hends j).mp hj
    exact ⟨i, j, hwithin i hi, hspans⟩
  · rintro ⟨i, j, hi, hspans⟩ hnone
    have hj := (hends j).mpr ⟨i, (Places.testBit_all text i).mpr hi, hspans⟩
    rw [hnone, Nat.zero_testBit] at hj
    exact Bool.false_ne_true hj

end Pattern
end FieldRules
