import FieldRules.Decimal.Basic

/-! Numbers as a text may write them: finite, infinite or undefined.

A numeral has digits with at most one point among or beside them, and may have a
sign and a power of ten. The words `inf`, `infinity` and `nan` are read in any
case. A numeral past the greatest finite value is infinite. -/
namespace FieldRules

inductive Extended where
  | finite (value : Double)
  | infinite (negative : Bool)
  | undefined
deriving DecidableEq, Repr

namespace Extended

def isFinite : Extended → Bool
  | finite _ => true
  | _ => false

/-- The order, in which the undefined value is neither above nor below. -/
def le : Extended → Extended → Bool
  | finite x, finite y => x.le y
  | finite _, infinite negative => !negative
  | infinite negative, finite _ => negative
  | infinite negative, infinite other => negative || !other
  | _, _ => false

def ofDecimal (d : Decimal) : Extended :=
  match d.toDouble? with
  | some value => finite value
  | none => infinite d.negative

/-! ### Reading -/

/-- A power of ten that takes up the whole text, or no text. -/
def power? (text : List Char) : Option Int :=
  match text with
  | [] => some 0
  | c :: rest => if c = 'e' || c = 'E' then integer? rest else none

/-- Digits, a point, digits and a power of ten. There are digits on one side of the
point at least, and without a point none after it. -/
def unsigned? (negative : Bool) (text : List Char) : Option Extended :=
  let whole := text.takeWhile Char.isDigit
  let rest := text.dropWhile Char.isDigit
  let (fraction, rest) := match rest with
    | '.' :: rest => (rest.takeWhile Char.isDigit, rest.dropWhile Char.isDigit)
    | rest => ([], rest)
  if whole.isEmpty && fraction.isEmpty then none
  else
    (power? rest).map fun power =>
      ofDecimal ⟨negative, Nat.ofDigitChars 10 (whole ++ fraction) 0, power - fraction.length⟩

def ofChars? (text : List Char) : Option Extended :=
  let (negative, body) := signed text
  match String.ofList (body.map Char.toLower) with
  | "inf" => some (infinite negative)
  | "infinity" => some (infinite negative)
  | "nan" => some undefined
  | _ => unsigned? negative body

end Extended
end FieldRules
