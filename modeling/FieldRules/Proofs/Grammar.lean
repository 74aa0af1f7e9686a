import FieldRules.Path.Basic
import FieldRules.Text.Pieces
import Mathlib.Data.List.Forall2
import Mathlib.Data.List.TakeWhile

/-! What a text says as a path.

A text is cut at its dots, and each piece is one segment (`Path.segments_of_pieces`). A
piece is a key with an index when it ends in brackets around a numeral and there is
something, but no other bracket, in front of them (`Segment.Bracketed`). The numeral may
have any number of zeros in front, but not be past the greatest index. Whatever else a
piece may be, it is a key as a whole.

`Path.ofText_reads`: so nothing of a text is lost, and nothing in it is an error. -/
namespace FieldRules

/-! ### Numerals -/

theorem index?_eq_some_iff (digits : List Char) (n : Nat) :
    index? digits = some n ↔ natural? digits = some n ∧ n ≤ greatestIndex := by
  rw [index?, Option.filter_eq_some_iff, decide_eq_true_iff]

/-- The decimal text of a number is a numeral. -/
theorem natural?_repr (n : Nat) : natural? n.repr.toList = some n := by
  rw [Nat.toList_repr, natural?_toDigits]

namespace Segment

/-! ### A piece -/

/-- The piece is the key and, in brackets behind it, digits with that value. -/
structure Bracketed (piece key : String) (n : Nat) : Prop where
  ne_empty : key ≠ ""
  free : '[' ∉ key.toList ∧ ']' ∉ key.toList
  written : ∃ digits : String, piece = key ++ "[" ++ digits ++ "]" ∧ digits ≠ "" ∧
    (∀ c ∈ digits.toList, c.isDigit = true) ∧ Nat.ofDigitChars 10 digits.toList 0 = n
  le : n ≤ greatestIndex

/-- The segment that a piece is. -/
structure Reads (piece : String) (s : Segment) : Prop where
  index_iff : ∀ n, s.index = some n ↔ ∃ key, Bracketed piece key n
  key_of_bracketed : ∀ key n, Bracketed piece key n → s.key = key
  plain : (¬∃ key n, Bracketed piece key n) → s = ⟨piece, none⟩

/-- An index may be written as its decimal text. -/
theorem bracketed_repr {key : String} {n : Nat} (hne : key ≠ "")
    (hfree : '[' ∉ key.toList ∧ ']' ∉ key.toList) (hle : n ≤ greatestIndex) :
    Bracketed (key ++ "[" ++ n.repr ++ "]") key n := by
  obtain ⟨-, hdigits, hvalue⟩ := (natural?_eq_some_iff ..).mp (natural?_repr n)
  exact ⟨hne, hfree, ⟨n.repr, rfl, by simp, hdigits, hvalue⟩, hle⟩

theorem bracketedDigits?_eq_some_iff (text digits : List Char) :
    bracketedDigits? text = some digits ↔
      text = '[' :: digits ++ [']'] ∧ ∀ c ∈ digits, Text.isDecimal c = true := by
  constructor
  · intro h
    unfold bracketedDigits? at h
    split at h
    · rename_i rest
      split at h
      · rename_i hclosed
        cases h
        refine ⟨?_, fun c hc => List.mem_takeWhile_imp hc⟩
        rw [List.cons_append, ← hclosed, List.takeWhile_append_dropWhile]
      · cases h
    · cases h
  · rintro ⟨rfl, hdigits⟩
    have hclose : Text.isDecimal ']' = false := by decide
    rw [List.cons_append, bracketedDigits?, List.dropWhile_append_of_pos hdigits,
      List.takeWhile_append_of_pos hdigits]
    simp [hclose]

theorem isBracket_eq_false_iff (c : Char) : isBracket c = false ↔ c ≠ '[' ∧ c ≠ ']' := by
  simp [isBracket]

section
variable {key : List Char} (h : ∀ c ∈ key, isBracket c = false) (rest : List Char)
include h

/-- A key ends where the first bracket stands. -/
theorem takeWhile_key : (key ++ '[' :: rest).takeWhile (fun c => !isBracket c) = key := by
  rw [List.takeWhile_append_of_pos fun c hc => by simp [h c hc]]
  simp [isBracket]

theorem dropWhile_key :
    (key ++ '[' :: rest).dropWhile (fun c => !isBracket c) = '[' :: rest := by
  rw [List.dropWhile_append_of_pos fun c hc => by simp [h c hc]]
  simp [isBracket]

end

theorem Bracketed.isBracket_key {piece key : String} {n : Nat} (h : Bracketed piece key n) :
    ∀ c ∈ key.toList, isBracket c = false := by
  intro c hc
  rw [isBracket_eq_false_iff]
  refine ⟨?_, ?_⟩ <;> rintro rfl
  · exact h.free.1 hc
  · exact h.free.2 hc

theorem ofChars_of_bracketed {piece key : String} {n : Nat} (h : Bracketed piece key n) :
    ofChars piece.toList = ⟨key, some n⟩ := by
  obtain ⟨digits, rfl, hne, hdigits, hvalue⟩ := h.written
  have hchars : (key ++ "[" ++ digits ++ "]").toList =
      key.toList ++ '[' :: (digits.toList ++ [']']) := by simp
  have htake := takeWhile_key h.isBracket_key (digits.toList ++ [']'])
  have hdrop := dropWhile_key h.isBracket_key (digits.toList ++ [']'])
  have hindex : index? (key.toList ++ '[' :: (digits.toList ++ [']'])) = some n := by
    have hkey : key.toList.isEmpty = false := by simpa using h.ne_empty
    have hinside := (bracketedDigits?_eq_some_iff _ digits.toList).mpr
      ⟨rfl, fun c hc => Text.isDecimal_of_isDigit (hdigits c hc)⟩
    rw [List.cons_append] at hinside
    have hnumeral : FieldRules.index? digits.toList = some n := by
      rw [index?_eq_some_iff, natural?_eq_some_iff]
      exact ⟨⟨by simpa using hne, hdigits, hvalue⟩, h.le⟩
    rw [index?, htake, hkey, hdrop, hinside]
    exact hnumeral
  rw [hchars, ofChars, hindex, htake, String.ofList_toList]

theorem bracketed_of_index? {piece : String} {n : Nat} (h : index? piece.toList = some n) :
    ∃ key, Bracketed piece key n := by
  unfold index? at h
  split at h
  · cases h
  · rename_i hkey
    obtain ⟨digits, hinside, hnumeral⟩ := Option.bind_eq_some_iff.mp h
    obtain ⟨hrest, -⟩ := (bracketedDigits?_eq_some_iff ..).mp hinside
    obtain ⟨hnatural, hle⟩ := (index?_eq_some_iff ..).mp hnumeral
    obtain ⟨hne, hdigits, hvalue⟩ := (natural?_eq_some_iff ..).mp hnatural
    have hfree : ∀ c ∈ piece.toList.takeWhile (fun c => !isBracket c), isBracket c = false :=
      fun c hc => by simpa using List.mem_takeWhile_imp hc
    refine ⟨String.ofList (piece.toList.takeWhile fun c => !isBracket c), ?_, ?_,
      ⟨String.ofList digits, ?_, ?_, ?_, ?_⟩, hle⟩
    · simpa using hkey
    · rw [String.toList_ofList]
      exact ⟨fun hmem => absurd (hfree _ hmem) (by decide),
        fun hmem => absurd (hfree _ hmem) (by decide)⟩
    · have hpiece := List.takeWhile_append_dropWhile (p := fun c => !isBracket c) (l := piece.toList)
      rw [hrest] at hpiece
      rw [← String.toList_inj]
      exact hpiece.symm.trans (by simp)
    · simpa using hne
    · simpa using hdigits
    · simpa using hvalue

theorem ofChars_of_not_bracketed {piece : String} (h : ¬∃ key n, Bracketed piece key n) :
    ofChars piece.toList = ⟨piece, none⟩ := by
  unfold ofChars
  split
  · rename_i n hindex
    obtain ⟨key, hkey⟩ := bracketed_of_index? hindex
    exact absurd ⟨key, n, hkey⟩ h
  · rw [String.ofList_toList]

/-- A piece has one key and one index at most. -/
theorem Bracketed.unique {piece a b : String} {m n : Nat} (ha : Bracketed piece a m)
    (hb : Bracketed piece b n) : a = b ∧ m = n := by
  simpa using (ofChars_of_bracketed ha).symm.trans (ofChars_of_bracketed hb)

theorem reads_ofChars (piece : String) : Reads piece (ofChars piece.toList) := by
  by_cases h : ∃ key n, Bracketed piece key n
  · obtain ⟨key, n, hkey⟩ := h
    rw [ofChars_of_bracketed hkey]
    refine ⟨fun m => ?_, fun other m hother => (hkey.unique hother).1,
      fun hnone => absurd ⟨key, n, hkey⟩ hnone⟩
    constructor
    · intro hm
      cases hm
      exact ⟨key, hkey⟩
    · rintro ⟨other, hother⟩
      rw [(hkey.unique hother).2]
  · rw [ofChars_of_not_bracketed h]
    refine ⟨fun m => ?_, fun other m hother => absurd ⟨other, m, hother⟩ h, fun _ => rfl⟩
    constructor
    · intro hm
      cases hm
    · rintro ⟨other, hother⟩
      exact absurd ⟨other, m, hother⟩ h

theorem key_eq_empty_iff (piece : String) : (ofChars piece.toList).key = "" ↔ piece = "" := by
  by_cases h : ∃ key n, Bracketed piece key n
  · obtain ⟨key, n, hkey⟩ := h
    rw [ofChars_of_bracketed hkey]
    refine ⟨fun he => absurd he hkey.ne_empty, ?_⟩
    rintro rfl
    obtain ⟨digits, hpiece, -⟩ := hkey.written
    simpa using congrArg String.toList hpiece
  · rw [ofChars_of_not_bracketed h]

end Segment

namespace Path

/-! ### A text -/

/-- Each piece of a text is one segment. -/
theorem segments_of_pieces {text : String} {pieces : List String}
    (h : Text.Pieces '.' text pieces) :
    (ofText text).segments = pieces.map fun piece => Segment.ofChars piece.toList := by
  rw [(Text.pieces_iff ..).mp h, ofText, List.map_map]
  simp [Function.comp_def]

/-- **A text is read as a path piece by piece**: what stands between two dots is a key with
an index in brackets if it has that form, and else a key as it stands. The path is well
formed when no two dots meet and none stands at an end. -/
theorem ofText_reads (text : String) :
    ∃ pieces, Text.Pieces '.' text pieces ∧
      List.Forall₂ Segment.Reads pieces (ofText text).segments ∧
      ((ofText text).wellFormed = true ↔ ∀ piece ∈ pieces, piece ≠ "") := by
  obtain ⟨pieces, hpieces⟩ : ∃ pieces, Text.Pieces '.' text pieces :=
    ⟨_, (Text.pieces_iff ..).mpr rfl⟩
  refine ⟨pieces, hpieces, ?_, ?_⟩
  · rw [segments_of_pieces hpieces, List.forall₂_map_right_iff]
    exact List.forall₂_same.mpr fun piece _ => Segment.reads_ofChars piece
  · rw [wellFormed, segments_of_pieces hpieces, List.all_map, List.all_eq_true]
    simp [Segment.key_eq_empty_iff]

/-- Zeros in front of an index, an index that is too great, no key, and two brackets. -/
example : (ofText "a[007].b[18446744073709551616]..[0].c[0][1]").segments =
    [⟨"a", some 7⟩, ⟨"b[18446744073709551616]", none⟩, ⟨"", none⟩, ⟨"[0]", none⟩,
      ⟨"c[0][1]", none⟩] := by decide

end Path
end FieldRules
