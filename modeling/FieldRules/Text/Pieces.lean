/-! What stands between the separators of a text.

`pieces_iff`: every text has one list of pieces, the one that splitting finds. -/
namespace FieldRules.Text

/-- At least one piece, none with a separator in it, which are the text when one
separator stands between any two neighbours. -/
structure Pieces (separator : Char) (text : String) (pieces : List String) : Prop where
  ne_nil : pieces ≠ []
  free : ∀ piece ∈ pieces, separator ∉ piece.toList
  joined : text.toList = [separator].intercalate (pieces.map String.toList)

theorem not_mem_of_mem_splitOn (separator : Char) (text : List Char) :
    ∀ piece ∈ text.splitOn separator, separator ∉ piece := by
  induction text with
  | nil => simp
  | cons c rest ih =>
    rw [List.splitOn_cons_eq_if_modifyHead]
    intro piece hpiece
    split at hpiece
    · rcases List.mem_cons.mp hpiece with rfl | hlater
      · exact List.not_mem_nil
      · exact ih piece hlater
    · rename_i hc
      have hne : separator ≠ c := fun he => hc (beq_iff_eq.mpr he.symm)
      cases hs : rest.splitOn separator with
      | nil => exact absurd hs (List.splitOn_ne_nil separator rest)
      | cons first others =>
        rw [hs] at hpiece ih
        rcases List.mem_cons.mp hpiece with rfl | hlater
        · exact List.not_mem_cons_of_ne_of_not_mem hne (ih first (List.mem_cons_self ..))
        · exact ih piece (List.mem_cons_of_mem first hlater)

theorem pieces_iff (separator : Char) (text : String) (pieces : List String) :
    Pieces separator text pieces ↔
      pieces = (text.toList.splitOn separator).map String.ofList := by
  constructor
  · rintro ⟨hne, hfree, hjoined⟩
    have hsplit : text.toList.splitOn separator = pieces.map String.toList := by
      rw [hjoined]
      exact List.splitOn_intercalate separator (by simpa using hfree) (by simpa using hne)
    simp [hsplit]
  · rintro rfl
    refine ⟨by simp [List.splitOn_ne_nil], ?_, ?_⟩
    · simpa using not_mem_of_mem_splitOn separator text.toList
    · simp [Function.comp_def, List.intercalate_splitOn]

/-- Texts with the same pieces are the same, and the other way round. -/
theorem Pieces.inj {separator : Char} {a b : String} {as bs : List String}
    (ha : Pieces separator a as) (hb : Pieces separator b bs) : a = b ↔ as = bs := by
  constructor
  · intro h
    rw [(pieces_iff ..).mp ha, (pieces_iff ..).mp hb, h]
  · intro h
    rw [← String.toList_inj, ha.joined, hb.joined, h]

/-- The text is put together again from its pieces. -/
theorem Pieces.intercalate {separator : Char} {text : String} {pieces : List String}
    (h : Pieces separator text pieces) : (String.singleton separator).intercalate pieces = text := by
  rw [← String.toList_inj, String.toList_intercalate, h.joined, String.toList_singleton]

theorem mem_intercalate_iff {separator : List Char} {c : Char} (h : c ∉ separator)
    (pieces : List (List Char)) :
    c ∈ separator.intercalate pieces ↔ ∃ piece ∈ pieces, c ∈ piece := by
  induction pieces with
  | nil => simp
  | cons first others ih =>
    cases others with
    | nil => simp
    | cons second others =>
      rw [List.intercalate_cons_cons, List.mem_append, List.mem_append, ih]
      simp [h]

theorem not_mem_intercalate_map {α : Type} {separator : List Char} {c : Char} (h : c ∉ separator)
    {text : α → List Char} {items : List α} (htext : ∀ item ∈ items, c ∉ text item) :
    c ∉ separator.intercalate (items.map text) := by
  intro hmem
  obtain ⟨piece, hpiece, hc⟩ := (mem_intercalate_iff h _).mp hmem
  obtain ⟨item, hitem, rfl⟩ := List.mem_map.mp hpiece
  exact htext item hitem hc

/-- Nothing but separators stands between the pieces. -/
theorem Pieces.mem_iff {separator : Char} {text : String} {pieces : List String}
    (h : Pieces separator text pieces) {c : Char} (hc : c ≠ separator) :
    c ∈ text.toList ↔ ∃ piece ∈ pieces, c ∈ piece.toList := by
  rw [h.joined, mem_intercalate_iff (mt List.mem_singleton.mp hc)]
  constructor
  · rintro ⟨chars, hmem, hchar⟩
    obtain ⟨piece, hpiece, rfl⟩ := List.mem_map.mp hmem
    exact ⟨piece, hpiece, hchar⟩
  · rintro ⟨piece, hpiece, hchar⟩
    exact ⟨piece.toList, List.mem_map.mpr ⟨piece, hpiece, rfl⟩, hchar⟩

/-! ### Pieces that all end -/

theorem intercalate_append {α : Type} (mark : α) (before : List (List α)) {parts : List (List α)}
    (h : parts ≠ []) :
    [mark].intercalate (before ++ parts) =
      before.flatMap (· ++ [mark]) ++ [mark].intercalate parts := by
  induction before with
  | nil => rfl
  | cons part others ih =>
    obtain ⟨next, later, hnext⟩ : ∃ next later, others ++ parts = next :: later :=
      List.exists_cons_of_ne_nil (List.append_ne_nil_of_right_ne_nil others h)
    rw [List.cons_append, hnext, List.intercalate_cons_cons, ← hnext, ih, List.flatMap_cons,
      List.append_assoc, List.append_assoc, List.append_assoc]

theorem intercalate_ended {α : Type} (mark : α) (parts : List (List α)) :
    [mark].intercalate (parts ++ [[]]) = parts.flatMap (· ++ [mark]) := by
  rw [intercalate_append mark parts (List.cons_ne_nil [] []), List.intercalate_singleton,
    List.append_nil]

/-- When a separator stands behind every piece, nothing is left behind the last. -/
theorem pieces_of_ended {separator : Char} {text : String} {pieces : List String}
    (hfree : ∀ piece ∈ pieces, separator ∉ piece.toList)
    (htext : text.toList = pieces.flatMap fun piece => piece.toList ++ [separator]) :
    Pieces separator text (pieces ++ [""]) := by
  refine ⟨by simp, ?_, ?_⟩
  · intro piece hpiece
    rcases List.mem_append.mp hpiece with hmem | hmem
    · exact hfree piece hmem
    · rw [List.mem_singleton.mp hmem]
      exact List.not_mem_nil
  · have hjoined := intercalate_ended separator (pieces.map String.toList)
    rw [List.flatMap_map] at hjoined
    rw [htext, ← hjoined, List.map_append]
    rfl

end FieldRules.Text
