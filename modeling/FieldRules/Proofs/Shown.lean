import FieldRules.Proofs.Grammar
import FieldRules.Proofs.Numerals

/-! A path is read again from the text that shows it.

A key is shown as it stands, and an index as its decimal text. So of a piece nothing but
the digits of an index can change, and of those only zeros in front of others are left out
(`repr_ofDigitChars_iff`). No dot comes in and no bracket, which leaves every segment what it
was (`Segment.ofChars_text`), and the text is cut where it was cut before
(`Path.pieces_shown`).

`Path.shown_reads_back`: to show a path and read it again changes nothing, and to read a text
and show it again changes nothing but such zeros. -/
namespace FieldRules

/-! ### Digits -/

/-- No zero stands in front of other digits. -/
def Canonical (digits : String) : Prop := ∀ others, digits.toList = '0' :: others → others = []

/-- A digit is the decimal text of its value. -/
theorem toDigits_digit {c : Char} (h : c.isDigit = true) :
    Nat.toDigits 10 (c.toNat - 48) = [c] := by
  obtain ⟨hleast, hgreatest⟩ := Text.toNat_of_isDigit h
  have hlt : c.toNat - 48 < 10 := by omega
  have hchar : Nat.digitChar (c.toNat - 48) = c := by
    apply Char.toNat_inj.mp
    rw [Nat.toNat_digitChar_of_lt_ten hlt]
    omega
  rw [Nat.toDigits_of_lt_base hlt, hchar]

/-- Digits that are read after a number other than zero stand behind its own. -/
theorem toDigits_ofDigitChars {digits : List Char} (h : ∀ c ∈ digits, c.isDigit = true) {n : Nat}
    (hn : 0 < n) :
    Nat.toDigits 10 (Nat.ofDigitChars 10 digits n) = Nat.toDigits 10 n ++ digits := by
  induction digits generalizing n with
  | nil => simp
  | cons c rest ih =>
    obtain ⟨hc, hrest⟩ := List.forall_mem_cons.mp h
    obtain ⟨hleast, hgreatest⟩ := Text.toNat_of_isDigit hc
    have hdigit : c.toNat - 48 < 10 := by omega
    have hnext : 0 < 10 * n + (c.toNat - 48) := by omega
    calc Nat.toDigits 10 (Nat.ofDigitChars 10 (c :: rest) n)
        = Nat.toDigits 10 (10 * n + (c.toNat - 48)) ++ rest := by
          rw [Nat.ofDigitChars_cons]
          exact ih hrest hnext
      _ = Nat.toDigits 10 n ++ Nat.toDigits 10 (c.toNat - 48) ++ rest := by
          rw [Nat.toDigits_append_toDigits (by decide) hn hdigit]
      _ = Nat.toDigits 10 n ++ c :: rest := by rw [toDigits_digit hc]; simp

/-- Digits that do not begin with a zero are the decimal text of their value. -/
theorem toDigits_ofDigitChars_cons {c : Char} {rest : List Char}
    (h : ∀ d ∈ c :: rest, d.isDigit = true) (hzero : c ≠ '0') :
    Nat.toDigits 10 (Nat.ofDigitChars 10 (c :: rest) 0) = c :: rest := by
  obtain ⟨hc, hrest⟩ := List.forall_mem_cons.mp h
  have hpos : 0 < c.toNat - 48 := by
    have hcode : c.toNat ≠ 48 := fun he => hzero (Char.toNat_inj.mp he)
    obtain ⟨hleast, -⟩ := Text.toNat_of_isDigit hc
    omega
  rw [Nat.ofDigitChars_cons]
  show Nat.toDigits 10 (Nat.ofDigitChars 10 rest (10 * 0 + (c.toNat - 48))) = c :: rest
  rw [Nat.mul_zero, Nat.zero_add, toDigits_ofDigitChars hrest hpos, toDigits_digit hc]
  rfl

/-- Digits are the decimal text of their value if no zero is in front of others. -/
theorem repr_ofDigitChars_iff {digits : String} (hne : digits ≠ "")
    (h : ∀ c ∈ digits.toList, c.isDigit = true) :
    (Nat.ofDigitChars 10 digits.toList 0).repr = digits ↔ Canonical digits := by
  rw [← String.toList_inj, Nat.toList_repr, Canonical]
  constructor
  · intro hshown others hzero
    obtain ⟨first, rest, htoDigits, hlead⟩ :=
      Json.exists_toDigits (Nat.ofDigitChars 10 digits.toList 0)
    rw [hshown, hzero] at htoDigits
    cases htoDigits
    simpa using hlead
  · intro hcanonical
    cases hdigits : digits.toList with
    | nil => exact absurd (String.toList_eq_nil_iff.mp hdigits) hne
    | cons c rest =>
      rw [hdigits] at h hcanonical
      by_cases hzero : c = '0'
      · subst hzero
        rw [hcanonical rest rfl]
        rfl
      · exact toDigits_ofDigitChars_cons h hzero

namespace Segment

/-! ### Segments -/

variable {piece key : String} {n : Nat}

theorem text_of_bracketed (h : Bracketed piece key n) :
    (ofChars piece.toList).text = key ++ "[" ++ n.repr ++ "]" := by
  rw [ofChars_of_bracketed h, ← String.toList_inj, text, String.toList_ofList]
  simp [chars]

theorem text_of_not_bracketed (h : ¬∃ key n, Bracketed piece key n) :
    (ofChars piece.toList).text = piece := by
  rw [ofChars_of_not_bracketed h, text, chars, String.ofList_toList]

/-- A segment is read again from its text. -/
theorem ofChars_text (piece : String) :
    ofChars (ofChars piece.toList).text.toList = ofChars piece.toList := by
  by_cases h : ∃ key n, Bracketed piece key n
  · obtain ⟨key, n, hkey⟩ := h
    have hshown := bracketed_repr hkey.ne_empty hkey.free hkey.le
    rw [text_of_bracketed hkey, ofChars_of_bracketed hshown, ofChars_of_bracketed hkey]
  · rw [text_of_not_bracketed h]

/-- No dot comes in where a piece is shown. -/
theorem dot_not_mem_text (h : '.' ∉ piece.toList) : '.' ∉ (ofChars piece.toList).text.toList := by
  by_cases hbracketed : ∃ key n, Bracketed piece key n
  · obtain ⟨key, n, hkey⟩ := hbracketed
    obtain ⟨digits, hpiece, -⟩ := hkey.written
    have hdot : '.' ∉ key.toList := fun hmem => h (by simp [hpiece, hmem])
    have hdigits : '.' ∉ Nat.toDigits 10 n := fun hmem =>
      absurd (isDigit_toDigits n '.' hmem) (by decide)
    rw [text_of_bracketed hkey]
    simp [hdot, hdigits]
  · rw [text_of_not_bracketed hbracketed]
    exact h

/-- Behind one key, what is written in the brackets is written in one way. -/
theorem digits_eq_of_written {digits other : String}
    (h : key ++ "[" ++ digits ++ "]" = key ++ "[" ++ other ++ "]") : digits = other := by
  rw [← String.toList_inj] at h ⊢
  simpa using h

/-- A piece is shown as it was written, unless zeros are in front of an index. -/
theorem text_eq_iff (piece : String) :
    (ofChars piece.toList).text = piece ↔
      ∀ key n digits, Bracketed piece key n → piece = key ++ "[" ++ digits ++ "]" →
        Canonical digits := by
  by_cases h : ∃ key n, Bracketed piece key n
  · obtain ⟨key, n, hkey⟩ := h
    obtain ⟨digits, hpiece, hne, hdigits, hvalue⟩ := hkey.written
    have hshown : (ofChars piece.toList).text = piece ↔ n.repr = digits := by
      rw [text_of_bracketed hkey]
      constructor
      · intro he
        exact digits_eq_of_written (he.trans hpiece)
      · intro he
        rw [he, hpiece]
    rw [hshown, ← hvalue, repr_ofDigitChars_iff hne hdigits]
    constructor
    · intro hcanonical other m written hother hwritten
      obtain ⟨rfl, -⟩ := hother.unique hkey
      exact digits_eq_of_written (hpiece.symm.trans hwritten) ▸ hcanonical
    · intro hall
      exact hall key n digits hkey hpiece
  · exact iff_of_true (text_of_not_bracketed h) fun key n _ hkey => absurd ⟨key, n, hkey⟩ h

end Segment

namespace Path

/-! ### Texts -/

/-- A path is shown piece by piece. -/
theorem pieces_shown {text : String} {pieces : List String} (h : Text.Pieces '.' text pieces) :
    Text.Pieces '.' (ofText text).text
      (pieces.map fun piece => (Segment.ofChars piece.toList).text) := by
  refine ⟨by simpa using h.ne_nil, ?_, ?_⟩
  · intro shown hshown
    obtain ⟨piece, hpiece, rfl⟩ := List.mem_map.mp hshown
    exact Segment.dot_not_mem_text (h.free piece hpiece)
  · rw [Path.text, segments_of_pieces h, String.toList_ofList, List.map_map, List.map_map]
    simp [Function.comp_def, Segment.text]

theorem eq_of_segments {p q : Path} (h : p.segments = q.segments) : p = q := congrArg Path.mk h

/-- **A path is read again from the text that shows it**, whatever text it was read from.
That text is the one it was read from exactly if no index in it has a zero in front of
other digits. -/
theorem shown_reads_back (text : String) :
    ofText (ofText text).text = ofText text ∧
      ∃ pieces, Text.Pieces '.' text pieces ∧
        ((ofText text).text = text ↔
          ∀ piece ∈ pieces, ∀ key n digits, Segment.Bracketed piece key n →
            piece = key ++ "[" ++ digits ++ "]" → Canonical digits) := by
  obtain ⟨pieces, hpieces⟩ : ∃ pieces, Text.Pieces '.' text pieces :=
    ⟨_, (Text.pieces_iff ..).mpr rfl⟩
  have hshown := pieces_shown hpieces
  refine ⟨?_, pieces, hpieces, ?_⟩
  · apply eq_of_segments
    rw [segments_of_pieces hshown, segments_of_pieces hpieces, List.map_map]
    simp only [Function.comp_def, Segment.ofChars_text]
  · have hsame : pieces.map (fun piece => (Segment.ofChars piece.toList).text) = pieces ↔
        ∀ piece ∈ pieces, (Segment.ofChars piece.toList).text = piece := by
      simpa using
        @List.map_inj_left _ _ pieces (fun piece => (Segment.ofChars piece.toList).text) id
    rw [hshown.inj hpieces, hsame]
    simp only [Segment.text_eq_iff]

/-- Zeros are left out in front of an index, and nowhere else. -/
example : (ofText "a[007].b[0].007.[01].c[00][1]").text = "a[7].b[0].007.[01].c[00][1]" := by
  decide

end Path
end FieldRules
