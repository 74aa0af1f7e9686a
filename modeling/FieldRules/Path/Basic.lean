import FieldRules.Decimal.Basic
import FieldRules.Text.Digit

/-! Paths into a document, and how they are written.

A path is written as its segments with dots between them. A segment is a key, or
a key and an index in brackets: `profile.tags[0]`. Whatever is not of the second
form is of the first, so every text is a path. Walking a path takes its `steps`
one by one, the key of a segment and then its index. -/
namespace FieldRules

/-- The greatest index and position that a path can hold. -/
def greatestIndex : Nat := 18446744073709551615

structure Segment where
  key : String
  index : Option Nat
deriving DecidableEq, Repr

structure Path where
  segments : List Segment
deriving DecidableEq, Repr

inductive Step where
  | key (name : String)
  | index (position : Nat)
deriving DecidableEq, Repr

/-- The key, or the index in decimal. -/
def Step.text : Step → String
  | key name => name
  | index position => position.repr

/-- A decimal numeral up to the greatest index. -/
def index? (digits : List Char) : Option Nat :=
  (natural? digits).filter fun n => n ≤ greatestIndex

/-- The position that a key names in an array: a numeral, with a plus sign or
without one. -/
def position? (key : String) : Option Nat :=
  match key.toList with
  | '+' :: digits => index? digits
  | digits => index? digits

theorem index?_toDigits (n : Nat) :
    index? (Nat.toDigits 10 n) = if n ≤ greatestIndex then some n else none := by
  rw [index?, natural?_toDigits, Option.filter_some]
  by_cases h : n ≤ greatestIndex <;> simp [h]

/-- A position is named by its decimal text. -/
theorem position?_repr (n : Nat) :
    position? n.repr = if n ≤ greatestIndex then some n else none := by
  unfold position?
  rw [Nat.toList_repr]
  split
  · rename_i digits hd
    have hplus : '+' ∈ Nat.toDigits 10 n := hd ▸ List.mem_cons_self ..
    exact absurd hplus (Text.not_mem_toDigits (by decide) n)
  · exact index?_toDigits n

namespace Segment

def isBracket (c : Char) : Bool := c = '[' || c = ']'

/-- The digits between the brackets, when brackets around digits are all that is
left of a segment. They may be of any script, though only numerals are read. -/
def bracketedDigits? (text : List Char) : Option (List Char) :=
  match text with
  | '[' :: rest =>
    if rest.dropWhile Text.isDecimal = [']'] then some (rest.takeWhile Text.isDecimal) else none
  | _ => none

/-- The index of a segment that has one: what stands before the bracket is its
key, and is not empty. -/
def index? (text : List Char) : Option Nat :=
  if (text.takeWhile fun c => !isBracket c).isEmpty then none
  else (bracketedDigits? (text.dropWhile fun c => !isBracket c)).bind FieldRules.index?

def ofChars (text : List Char) : Segment :=
  match index? text with
  | some n => ⟨String.ofList (text.takeWhile fun c => !isBracket c), some n⟩
  | none => ⟨String.ofList text, none⟩

def chars (s : Segment) : List Char :=
  match s.index with
  | some n => s.key.toList ++ '[' :: Nat.toDigits 10 n ++ [']']
  | none => s.key.toList

def text (s : Segment) : String := String.ofList s.chars

def steps (s : Segment) : List Step :=
  match s.index with
  | some n => [.key s.key, .index n]
  | none => [.key s.key]

end Segment

namespace Path

def ofText (text : String) : Path := ⟨(text.toList.splitOn '.').map Segment.ofChars⟩

def text (p : Path) : String := String.ofList (['.'].intercalate (p.segments.map Segment.chars))

def steps (p : Path) : List Step := p.segments.flatMap Segment.steps

/-- No segment has an empty key. -/
def wellFormed (p : Path) : Bool := p.segments.all fun s => !s.key.isEmpty

theorem segments_ofText_ne_nil (text : String) : (ofText text).segments ≠ [] := by
  simp [ofText, List.splitOn_ne_nil]

end Path
end FieldRules
