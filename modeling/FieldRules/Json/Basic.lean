import FieldRules.Dict
import FieldRules.Decimal.Shortest

/-! JSON documents.

An object lists its entries. In a document that was read, or made by writes, they
are a dictionary (`FieldRules.Dict`) and ascend by key; a record that is written
out lists its fields in their own order. A number is either an integer of 64
bits, signed or unsigned, or a finite double; the two never meet, so `1` and `1.0`
are different numbers. -/
namespace FieldRules

/-- The signed and the unsigned integers of 64 bits. -/
def Fits64 (n : Int) : Prop := -9223372036854775808 ≤ n ∧ n < 18446744073709551616

instance (n : Int) : Decidable (Fits64 n) := inferInstanceAs (Decidable (_ ∧ _))

inductive Number where
  | integer (value : Int) (fits : Fits64 value)
  | float (value : Double)
deriving DecidableEq

inductive Json where
  | null
  | bool (value : Bool)
  | number (value : Number)
  | string (value : String)
  | array (items : List Json)
  | object (entries : List (String × Json))
deriving Inhabited

namespace Number

def chars : Number → List Char
  | integer value _ =>
    if value < 0 then '-' :: Nat.toDigits 10 value.natAbs else Nat.toDigits 10 value.toNat
  | float value => value.chars

/-- The nearest double: every integer of 64 bits has one. -/
def toDouble : Number → Double
  | integer value _ => ((Decimal.ofInt value).toDouble?).getD (Double.zero false)
  | float value => value

end Number

namespace Json

/-- The number of a small natural number, such as a length or a position. -/
def ofNat (n : Nat) : Json :=
  if fits : Fits64 n then number (.integer n fits) else null

/-- The entry of an object, by its key. -/
def member? (key : String) : Json → Option Json
  | object entries => Dict.get? entries key
  | _ => none

end Json
end FieldRules
