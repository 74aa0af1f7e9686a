import FieldRules.Proofs.Fitting
import FieldRules.Proofs.Matched
import FieldRules.Proofs.Searched
import FieldRules.Rule.Builtin

/-! Addresses of mail.

The rule on addresses is a pattern (`Builtin.address?`), which is read and fits
(`Pattern.address?_eq`). The set in it is worked out apart (`Pattern.addressSet_eq`), since
sorting does not unfold while the pattern is read.

The pattern matches a text that is a name, an `@`, and two parts with a point between them,
none of them empty and none with a blank or an `@` (`Pattern.matches_address_iff`). Points may
stand anywhere in the parts, so it does not say which point it is that parts the last two, only
that there is one.

`Builtin.email_iff`: so an address is a string without blanks and with one `@`, behind which there
is a point that is neither at the beginning nor at the end. -/
namespace FieldRules
open Text

namespace Text.CharSet

/-- Intervals are put in order, whatever order they come in. -/
theorem ofIntervals_of_perm {intervals : List Interval} (sorted : List Interval)
    (hperm : intervals.Perm sorted)
    (hsorted : sorted.Pairwise fun i j => i.comesBefore j = true) :
    ofIntervals intervals = ⟨Interval.merge sorted⟩ := by
  have htrans : ∀ i j k : Interval, i.comesBefore j = true → j.comesBefore k = true →
      i.comesBefore k = true := by
    simp only [Interval.comesBefore, Bool.or_eq_true, Bool.and_eq_true, decide_eq_true_eq]
    omega
  have htotal : ∀ i j : Interval, (i.comesBefore j || j.comesBefore i) = true := by
    simp only [Interval.comesBefore, Bool.or_eq_true, Bool.and_eq_true, decide_eq_true_eq]
    omega
  have hantisymm : ∀ i j : Interval, i.comesBefore j = true → j.comesBefore i = true → i = j := by
    rintro ⟨first, last⟩ ⟨first', last'⟩ h h'
    simp only [Interval.comesBefore, Bool.or_eq_true, Bool.and_eq_true, decide_eq_true_eq] at h h'
    rw [Interval.mk.injEq]
    omega
  have hsame : intervals.mergeSort Interval.comesBefore = sorted :=
    List.Perm.eq_of_pairwise (fun i j _ _ => hantisymm i j)
      (List.pairwise_mergeSort htrans htotal intervals) hsorted
      ((List.mergeSort_perm ..).trans hperm)
  rw [ofIntervals, hsame]

end Text.CharSet

namespace Pattern

/-! ### Matches of parts -/

theorem drop_eq_cons_iff {text rest : List Char} {i : Nat} {c : Char} :
    text.drop i = c :: rest ↔ text[i]? = some c ∧ text.drop (i + 1) = rest := by
  constructor
  · intro h
    have hhead := congrArg List.head? h
    have htail := congrArg List.tail h
    rw [List.head?_drop] at hhead
    rw [List.tail_drop] at htail
    exact ⟨hhead, htail⟩
  · rintro ⟨hc, rfl⟩
    obtain ⟨hlt, rfl⟩ := List.getElem?_eq_some_iff.mp hc
    exact List.drop_eq_getElem_cons hlt

theorem drop_append_of_eq {text front rest : List Char} {i : Nat}
    (h : text.drop i = front ++ rest) : text.drop (i + front.length) = rest := by
  rw [← List.drop_drop, h, List.drop_left]

section
variable {text : List Char} {i j : Nat}

theorem spans_textStart_iff : (look .textStart).Spans text i j ↔ i = 0 ∧ j = 0 := by
  simp only [Spans, Assertion.holds]
  cases i with
  | zero => simp [Places.before]
  | succ i =>
    constructor
    · rintro ⟨⟨hle, hnone⟩, -⟩
      rw [Places.before, List.getElem?_eq_getElem hle] at hnone
      exact absurd hnone Bool.false_ne_true
    · rintro ⟨hzero, -⟩
      exact absurd hzero (Nat.succ_ne_zero i)

theorem spans_textEnd_iff :
    (look .textEnd).Spans text i j ↔ i = text.length ∧ j = text.length := by
  simp only [Spans, Assertion.holds, Option.isNone_iff_eq_none, List.getElem?_eq_none_iff]
  omega

theorem spans_character_iff {c : Char} :
    (literal [c]).Spans text i j ↔ text.drop i = c :: text.drop j ∧ j = i + 1 := by
  simp only [Spans, List.length_singleton]
  refine and_congr_left ?_
  rintro rfl
  constructor
  · rintro ⟨-, rest, hrest⟩
    rw [List.singleton_append] at hrest
    exact drop_eq_cons_iff.mpr ⟨(drop_eq_cons_iff.mp hrest.symm).1, rfl⟩
  · intro hdrop
    obtain ⟨hlt, -⟩ := List.getElem?_eq_some_iff.mp (drop_eq_cons_iff.mp hdrop).1
    exact ⟨Nat.le_of_lt hlt, _, hdrop.symm⟩

/-- Characters of a set, one in each turn. -/
theorem turns_one_iff {set : CharSet} {unicode : Bool} {n : Nat} :
    Turns ((one set unicode).Spans text) n i j ↔
      ∃ part, text.drop i = part ++ text.drop j ∧ j = i + part.length ∧ part.length = n ∧
        ∀ c ∈ part, set.boundaries.contains c = true := by
  induction n generalizing i with
  | zero =>
    constructor
    · rintro ⟨⟩
      exact ⟨[], rfl, rfl, rfl, nofun⟩
    · rintro ⟨part, -, rfl, hlength, -⟩
      rw [hlength]
      exact .none
  | succ n ih =>
    constructor
    · rintro (_ | ⟨⟨⟨c, hc, hset⟩, rfl⟩, hturns⟩)
      obtain ⟨part, hdrop, rfl, hlength, hpart⟩ := ih.mp hturns
      refine ⟨c :: part, drop_eq_cons_iff.mpr ⟨hc, hdrop⟩, ?_, congrArg (· + 1) hlength, ?_⟩
      · rw [List.length_cons]
        omega
      · exact List.forall_mem_cons.mpr ⟨hset, hpart⟩
    · rintro ⟨part, hdrop, rfl, hlength, hpart⟩
      obtain ⟨c, part, rfl⟩ := List.exists_cons_of_length_eq_add_one hlength
      obtain ⟨hset, hpart⟩ := List.forall_mem_cons.mp hpart
      obtain ⟨hc, hdrop⟩ := drop_eq_cons_iff.mp hdrop
      refine .more ⟨⟨c, hc, hset⟩, rfl⟩ (ih.mpr ⟨part, hdrop, ?_, Nat.succ.inj hlength, hpart⟩)
      rw [List.length_cons]
      omega

/-- A part of the text that is not empty, of characters of a set. -/
theorem spans_part_iff {set : CharSet} {unicode greedy : Bool} :
    (repeated (one set unicode) 1 none greedy).Spans text i j ↔
      ∃ part, text.drop i = part ++ text.drop j ∧ j = i + part.length ∧ part ≠ [] ∧
        ∀ c ∈ part, set.boundaries.contains c = true := by
  constructor
  · rintro ⟨n, hn, -, hturns⟩
    obtain ⟨part, hdrop, hj, rfl, hpart⟩ := turns_one_iff.mp hturns
    exact ⟨part, hdrop, hj, List.ne_nil_of_length_pos hn, hpart⟩
  · rintro ⟨part, hdrop, hj, hne, hpart⟩
    exact ⟨part.length, List.length_pos_iff.mpr hne, nofun,
      turns_one_iff.mpr ⟨part, hdrop, hj, rfl, hpart⟩⟩

end

/-! ### The pattern of addresses -/

/-- Everything but blanks and the `@`. -/
def addressSet : CharSet :=
  ⟨[⟨0, 8⟩, ⟨14, 31⟩, ⟨33, 63⟩, ⟨65, 132⟩, ⟨134, 159⟩, ⟨161, 5759⟩, ⟨5761, 8191⟩, ⟨8203, 8231⟩,
    ⟨8234, 8238⟩, ⟨8240, 8286⟩, ⟨8288, 12287⟩, ⟨12289, 1114111⟩]⟩

def addressPart : Pattern := .repeated (.one addressSet true) 1 none true

/-- The pattern of the rule, as it is read. -/
def address : Pattern :=
  .seq (.look .textStart) (.seq addressPart (.seq (.literal ['@'])
    (.seq addressPart (.seq (.literal ['.']) (.seq addressPart (.look .textEnd))))))

/-- Blanks and the `@`, in order. -/
def excluded : List Interval :=
  [⟨9, 13⟩, ⟨32, 32⟩, ⟨64, 64⟩, ⟨133, 133⟩, ⟨160, 160⟩, ⟨5760, 5760⟩, ⟨8192, 8202⟩, ⟨8232, 8233⟩,
    ⟨8239, 8239⟩, ⟨8287, 8287⟩, ⟨12288, 12288⟩]

theorem addressSet_eq :
    addressSet = ((CharSet.none.union Named.blank).union (.single '@')).compl := by
  have hblank : CharSet.none.union Named.blank = Named.blank := by
    refine (CharSet.ofIntervals_of_perm Named.blank.intervals (.refl _) ?_).trans ?_
    · decide +kernel
    · decide +kernel
  have hat : Named.blank.union (.single '@') = ⟨excluded⟩ := by
    refine (CharSet.ofIntervals_of_perm excluded ?_ ?_).trans ?_
    · decide +kernel
    · decide +kernel
    · decide +kernel
  rw [hblank, hat]
  decide +kernel

/-- The part as it is read, with its set still in pieces. -/
def readPart : Pattern :=
  repetition (ofSet ((CharSet.none.union Named.blank).union (.single '@')).compl true) 1 none true

theorem readPart_eq : readPart = addressPart := by
  rw [readPart, ← addressSet_eq]
  rfl

theorem address_eq :
    address = sequence [.look .textStart, readPart, .literal ['@'], readPart, .literal ['.'],
      readPart, .look .textEnd] := by
  rw [readPart_eq]
  rfl

theorem read_address :
    (body (groupPart nestingLimit)).run
        ⟨"^[^\\s@]+@[^\\s@]+\\.[^\\s@]+$".toList, .initial, [], 0⟩ =
      some (⟨address, 4, true⟩, ⟨[], .initial, [], 0⟩) := by
  rw [address_eq]
  rfl

/-- Laying it out would take too long here, but what that costs at most is soon counted. -/
theorem fits_address : address.fits = true :=
  fits_of_cost_le fun direction => by cases direction <;> decide +kernel

theorem address?_eq : Builtin.address? = some address := by
  simp only [Builtin.address?, ofText?, ofChars?, read_address]
  rw [Option.bind_eq_bind, Option.bind_some]
  dsimp only
  rw [fits_address]
  rfl

theorem contains_addressSet (c : Char) :
    addressSet.boundaries.contains c = true ↔ isBlank c = false ∧ c ≠ '@' := by
  have hcode : c.toNat < 0xD800 ∨ 0xDFFF < c.toNat ∧ c.toNat < 0x110000 := c.valid
  have hat : c ≠ '@' ↔ c.toNat ≠ 64 := (Char.toNat_inj (d := '@')).not.symm
  rw [CharSet.contains_boundaries (by decide), hat, ← Bool.not_eq_true]
  simp only [addressSet, CharSet.contains, CharSet.holds, Interval.holds, isBlank, List.any_cons,
    List.any_nil, Bool.or_false, Bool.or_eq_true, Bool.and_eq_true, decide_eq_true_eq]
  omega

/-- A part of an address: not empty, and without blanks and `@`. -/
structure IsAddressPart (part : List Char) : Prop where
  ne_nil : part ≠ []
  not_blank : ∀ c ∈ part, isBlank c = false
  ne_at : ∀ c ∈ part, c ≠ '@'

theorem IsAddressPart.of_subset {part whole : List Char} (hsub : part ⊆ whole) (hne : part ≠ [])
    (hblank : ∀ c ∈ whole, isBlank c = false) (hcount : whole.count '@' = 0) :
    IsAddressPart part where
  ne_nil := hne
  not_blank c hc := hblank c (hsub hc)
  ne_at _ hc hat := List.count_eq_zero.mp hcount (hsub (hat ▸ hc))

theorem isAddressPart_iff {part : List Char} :
    IsAddressPart part ↔ part ≠ [] ∧ ∀ c ∈ part, addressSet.boundaries.contains c = true := by
  simp only [contains_addressSet]
  exact ⟨fun h => ⟨h.ne_nil, fun c hc => ⟨h.not_blank c hc, h.ne_at c hc⟩⟩,
    fun h => ⟨h.1, fun c hc => (h.2 c hc).1, fun c hc => (h.2 c hc).2⟩⟩

theorem spans_addressPart_iff {text : List Char} {i j : Nat} :
    addressPart.Spans text i j ↔
      ∃ part, IsAddressPart part ∧ text.drop i = part ++ text.drop j ∧ j = i + part.length := by
  simp only [addressPart, spans_part_iff, isAddressPart_iff]
  constructor
  · rintro ⟨part, hdrop, hj, hpart⟩
    exact ⟨part, hpart, hdrop, hj⟩
  · rintro ⟨part, hpart, hdrop, hj⟩
    exact ⟨part, hdrop, hj, hpart⟩

theorem matches_address_iff (text : List Char) :
    address.matchesChars text = true ↔
      ∃ name before after, IsAddressPart name ∧ IsAddressPart before ∧ IsAddressPart after ∧
        text = name ++ '@' :: (before ++ '.' :: after) := by
  rw [matchesChars_iff]
  constructor
  · rintro ⟨i, j, -, hspans⟩
    -- One place behind each part of the pattern.
    obtain ⟨_, hstart, _, hname, _, hat, _, hbefore, _, hpoint, _, hafter, hend⟩ := hspans
    obtain ⟨rfl, rfl⟩ := spans_textStart_iff.mp hstart
    obtain ⟨name, hnamePart, htext, rfl⟩ := spans_addressPart_iff.mp hname
    obtain ⟨hat, rfl⟩ := spans_character_iff.mp hat
    obtain ⟨before, hbeforePart, hdomain, rfl⟩ := spans_addressPart_iff.mp hbefore
    obtain ⟨hpoint, rfl⟩ := spans_character_iff.mp hpoint
    obtain ⟨after, hafterPart, hrest, -⟩ := spans_addressPart_iff.mp hafter
    obtain ⟨rfl, -⟩ := spans_textEnd_iff.mp hend
    rw [List.drop_length, List.append_nil] at hrest
    rw [List.drop_zero, hat, hdomain, hpoint, hrest] at htext
    exact ⟨name, before, after, hnamePart, hbeforePart, hafterPart, htext⟩
  · rintro ⟨name, before, after, hnamePart, hbeforePart, hafterPart, htext⟩
    have hname : text.drop 0 = name ++ '@' :: (before ++ '.' :: after) := htext
    have hat := drop_append_of_eq hname
    have hbefore := (drop_eq_cons_iff.mp hat).2
    have hpoint := drop_append_of_eq hbefore
    have hafter := (drop_eq_cons_iff.mp hpoint).2
    have hend : 0 + name.length + 1 + before.length + 1 + after.length = text.length := by
      simp only [htext, List.length_append, List.length_cons]
      omega
    refine ⟨0, text.length, Nat.zero_le _, _, spans_textStart_iff.mpr ⟨rfl, rfl⟩,
      _, spans_addressPart_iff.mpr ⟨name, hnamePart, ?_, rfl⟩,
      _, spans_character_iff.mpr ⟨?_, rfl⟩,
      _, spans_addressPart_iff.mpr ⟨before, hbeforePart, ?_, rfl⟩,
      _, spans_character_iff.mpr ⟨?_, rfl⟩,
      _, spans_addressPart_iff.mpr ⟨after, hafterPart, ?_, rfl⟩,
      spans_textEnd_iff.mpr ⟨hend, rfl⟩⟩
    · rw [hname, hat]
    · rw [hat, hbefore]
    · rw [hbefore, hpoint]
    · rw [hpoint, hafter]
    · rw [hend, List.drop_length, List.append_nil, hafter]

end Pattern

namespace Builtin

/-- An address without blanks and with one `@`, something before it, and in what is behind it a
point that is neither the first character nor the last. -/
structure IsAddress (text : List Char) : Prop where
  not_blank : ∀ c ∈ text, isBlank c = false
  one_at : text.count '@' = 1
  parted : ∃ name domain, text = name ++ '@' :: domain ∧ name ≠ [] ∧
    ∃ k, 0 < k ∧ k + 1 < domain.length ∧ domain[k]? = some '.'

open Pattern (IsAddressPart)

namespace IsAddress
variable {name before after domain : List Char}

theorem of_parts (hname : IsAddressPart name) (hbefore : IsAddressPart before)
    (hafter : IsAddressPart after) : IsAddress (name ++ '@' :: (before ++ '.' :: after)) where
  not_blank c hc := by
    have hat : isBlank '@' = false := by decide
    have hpoint : isBlank '.' = false := by decide
    simp only [List.mem_append, List.mem_cons] at hc
    rcases hc with hc | rfl | hc | rfl | hc
    · exact hname.not_blank c hc
    · exact hat
    · exact hbefore.not_blank c hc
    · exact hpoint
    · exact hafter.not_blank c hc
  one_at := by
    have hcount {part : List Char} (h : IsAddressPart part) : part.count '@' = 0 :=
      List.count_eq_zero.mpr fun hmem => h.ne_at _ hmem rfl
    simp [hcount hname, hcount hbefore, hcount hafter]
  parted := by
    have hfirst := List.length_pos_iff.mpr hbefore.ne_nil
    have hlast := List.length_pos_iff.mpr hafter.ne_nil
    refine ⟨name, _, rfl, hname.ne_nil, before.length, hfirst, ?_, by simp⟩
    rw [List.length_append, List.length_cons]
    omega

theorem exists_parts {text : List Char} (h : IsAddress text) :
    ∃ name before after, IsAddressPart name ∧ IsAddressPart before ∧ IsAddressPart after ∧
      text = name ++ '@' :: (before ++ '.' :: after) := by
  obtain ⟨name, domain, rfl, hname, k, hfirst, hlast, hk⟩ := h.parted
  obtain ⟨hlt, hpoint⟩ := List.getElem?_eq_some_iff.mp hk
  have hdomain : domain = domain.take k ++ '.' :: domain.drop (k + 1) := by
    rw [← hpoint, List.getElem_cons_drop, List.take_append_drop]
  have hone := h.one_at
  rw [List.count_append, List.count_cons_self] at hone
  have hnone : name.count '@' = 0 ∧ domain.count '@' = 0 := by omega
  have hblank := h.not_blank
  simp only [List.forall_mem_append, List.forall_mem_cons] at hblank
  refine ⟨name, domain.take k, domain.drop (k + 1), ?_, ?_, ?_, by rw [← hdomain]⟩
  · exact .of_subset (List.Subset.refl _) hname hblank.1 hnone.1
  · refine .of_subset (List.take_subset ..) ?_ hblank.2.2 hnone.2
    exact List.ne_nil_of_length_pos (by rw [List.length_take]; omega)
  · refine .of_subset (List.drop_subset ..) ?_ hblank.2.2 hnone.2
    exact List.ne_nil_of_length_pos (by rw [List.length_drop]; omega)

end IsAddress

theorem isAddress_iff (text : List Char) :
    IsAddress text ↔
      ∃ name before after, IsAddressPart name ∧ IsAddressPart before ∧ IsAddressPart after ∧
        text = name ++ '@' :: (before ++ '.' :: after) := by
  refine ⟨IsAddress.exists_parts, ?_⟩
  rintro ⟨name, before, after, hname, hbefore, hafter, rfl⟩
  exact .of_parts hname hbefore hafter

/-- **A value is an address** if it is a text with the form of one. -/
theorem email_iff (v : Json) : email v = true ↔ ∃ s, v = .string s ∧ IsAddress s.toList := by
  cases v with
  | string s =>
    simp only [email, Pattern.address?_eq, Option.any_some, Pattern.matchesText,
      Pattern.matches_address_iff, ← isAddress_iff]
    simp
  | _ => simp [email]

end Builtin
end FieldRules
