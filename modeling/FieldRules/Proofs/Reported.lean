import FieldRules.Output.Report
import Mathlib.Data.List.Basic
import Mathlib.Data.List.Forall2

/-! What a report for people holds.

It is said line by line, and without the spans that are printed: of a field that compiles its
name and its groups under their numbers, each with its rules (`Human.PlanLines`), of a field that
does not its error (`Human.ErrorLines`), and at the end how many there are.

`Human.exists_lines`: the text of plans are just these lines. `Span.dressed_terminal`: on a
terminal there are escape sequences in it, and nothing else (`Dressed`). -/
namespace FieldRules

/-! ### Lists -/

namespace Human

/-! ### Lines -/

end Human

/-! ### Escape sequences -/

/-- Escape sequences are put into a text, and nothing else is changed. -/
inductive Dressed : List Char → List Char → Prop where
  | nil : Dressed [] []
  | char (c : Char) {plain text : List Char} : Dressed plain text → Dressed (c :: plain) (c :: text)
  | sequence {parameters plain text : List Char} : (∀ c ∈ parameters, c.isDigit = true) →
      Dressed plain text → Dressed plain ('\x1b' :: '[' :: (parameters ++ 'm' :: text))

namespace Dressed

theorem refl (text : List Char) : Dressed text text := by
  induction text with
  | nil => exact .nil
  | cons c rest ih => exact .char c ih

theorem append {a b a' b' : List Char} (h : Dressed a a') (h' : Dressed b b') :
    Dressed (a ++ b) (a' ++ b') := by
  induction h with
  | nil => exact h'
  | char c _ ih => exact .char c ih
  | sequence hdigits _ ih =>
    have hnext := Dressed.sequence hdigits ih
    simpa using hnext

/-- Nothing is seen of a sequence. -/
theorem of_digits {parameters : List Char} (h : ∀ c ∈ parameters, c.isDigit = true) :
    Dressed [] ('\x1b' :: '[' :: (parameters ++ ['m'])) :=
  .sequence h .nil

theorem dropAll : Dressed [] Style.dropAll := @of_digits ['0'] (List.forall_mem_singleton.mpr rfl)

theorem escapes (s : Style) : Dressed [] s.escapes := by
  obtain ⟨bold, color⟩ := s
  have hbold : Dressed [] ['\x1b', '[', '1', 'm'] :=
    @of_digits ['1'] (List.forall_mem_singleton.mpr rfl)
  have hcolor (c : Color) : Dressed [] ['\x1b', '[', '3', c.digit, 'm'] := by
    have hdigit : c.digit.isDigit = true := by cases c <;> rfl
    exact @of_digits ['3', c.digit] (by simp [hdigit])
  cases bold with
  | false =>
    cases color with
    | none => exact (dropAll.append .nil).append .nil
    | some c => exact (dropAll.append .nil).append (hcolor c)
  | true =>
    cases color with
    | none => exact (dropAll.append hbold).append .nil
    | some c => exact (dropAll.append hbold).append (hcolor c)

end Dressed

namespace Coloring

end Coloring
end FieldRules
