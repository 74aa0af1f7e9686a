import FieldRules.Output.Jsonl
import FieldRules.Proofs.Printing
import FieldRules.Text.Pieces

/-! Records a line each.

The compact text of a document is one line, whatever its strings hold: a line end is
written as an escape (`Json.newline_not_mem_chars`). So records that are written one
after the other, each with a line end behind it, are told apart again by the line ends
alone (`Jsonl.pieces_lines`). -/
namespace FieldRules

/-! ### Numbers -/

namespace Double

theorem newline_not_mem_significant {digits : List Char} (h : '\n' ∉ digits) :
    '\n' ∉ significant digits := by
  intro hmem
  have hkept := (List.dropWhile_sublist _).mem (List.mem_reverse.mp hmem)
  exact h (List.mem_reverse.mp hkept)

theorem newline_not_mem_plain {digits : List Char} (h : '\n' ∉ digits) (point : Int) :
    '\n' ∉ plain digits point := by
  have htake (n : Nat) : '\n' ∉ digits.take n := fun hmem => h (List.mem_of_mem_take hmem)
  have hdrop (n : Nat) : '\n' ∉ digits.drop n := fun hmem => h (List.mem_of_mem_drop hmem)
  unfold plain
  split
  · simp [h]
  · simp only
    split
    · simp [h]
    · simp [htake, hdrop]

theorem newline_not_mem_scientific {digits : List Char} (h : '\n' ∉ digits) (power : Int) :
    '\n' ∉ scientific digits power := by
  have hpower := Text.not_mem_toDigits (c := '\n') (by decide) power.natAbs
  have hsign : '\n' ≠ if power < 0 then '-' else '+' := by split <;> decide
  rcases digits with _ | ⟨first, _ | ⟨second, others⟩⟩
  · show '\n' ∉ ['0']
    decide
  · simp_all [scientific]
  · simp_all [scientific]

theorem newline_not_mem_chars (x : Double) : '\n' ∉ x.chars := by
  have hdigits :=
    newline_not_mem_significant (Text.not_mem_toDigits (by decide) x.shortest.coefficient)
  have hplain := newline_not_mem_plain hdigits x.shortest.magnitude
  have hscientific := newline_not_mem_scientific hdigits (x.shortest.magnitude - 1)
  unfold chars
  simp only
  split_ifs <;> simp [hplain, hscientific]

end Double

theorem Number.newline_not_mem_chars (n : Number) : '\n' ∉ n.chars := by
  cases n with
  | float value => exact value.newline_not_mem_chars
  | integer value fits =>
    rw [chars]
    split
    · simp [Text.not_mem_toDigits]
    · exact Text.not_mem_toDigits (by decide) _

/-! ### Documents -/

namespace Json

theorem newline_not_mem_escaped (c : Char) : '\n' ∉ escaped c := by
  unfold escaped
  split_ifs with _ _ _ _ hline _ _ hcontrol
  · decide
  · decide
  · decide
  · decide
  · decide
  · decide
  · decide
  · have hdigits : ∀ n < 32,
        '\n' ∉ ['\\', 'u', '0', '0', (n / 16).digitChar, (n % 16).digitChar] := by
      decide
    exact hdigits c.toNat hcontrol
  · intro hmem
    rw [← List.mem_singleton.mp hmem] at hline
    exact hline rfl

theorem newline_not_mem_quoted (s : String) : '\n' ∉ quoted s := by
  simp [quoted, newline_not_mem_escaped]

theorem newline_not_mem_chars (v : Json) : '\n' ∉ v.chars := by
  induction v using parts_induction with
  | null => decide
  | bool b => cases b <;> decide
  | number n => exact n.newline_not_mem_chars
  | string s => exact newline_not_mem_quoted s
  | array items ih =>
    cases items with
    | nil => decide
    | cons first others =>
      obtain ⟨hfirst, hothers⟩ := List.forall_mem_cons.mp ih
      simpa [chars, otherItems_eq, hfirst] using hothers
  | object entries ih =>
    cases entries with
    | nil => decide
    | cons first others =>
      obtain ⟨hfirst, hothers⟩ := List.forall_mem_cons.mp ih
      simpa [chars, otherEntries_eq, hfirst, newline_not_mem_quoted] using hothers

end Json

/-! ### Lines -/

/-- The line ends tell the records apart. -/
theorem Jsonl.pieces_lines (records : List Json) :
    Text.Pieces '\n' (lines records) (records.map Json.text ++ [""]) := by
  refine Text.pieces_of_ended ?_ ?_
  · intro line hline
    obtain ⟨record, -, rfl⟩ := List.mem_map.mp hline
    rw [Json.text, String.toList_ofList]
    exact record.newline_not_mem_chars
  · rw [lines, String.toList_ofList, List.flatMap_map]
    simp only [Json.text, String.toList_ofList]

end FieldRules
