/-! White space, and text without it at its ends.

`isBlank` is the white-space property of the character standard: twenty-five
characters, line ends and the wide spaces among them. -/
namespace FieldRules.Text

def isBlank (c : Char) : Bool :=
  (9 ≤ c.toNat && c.toNat ≤ 13) || c.toNat = 0x20 || c.toNat = 0x85 || c.toNat = 0xA0 ||
    c.toNat = 0x1680 || (0x2000 ≤ c.toNat && c.toNat ≤ 0x200A) || c.toNat = 0x2028 ||
    c.toNat = 0x2029 || c.toNat = 0x202F || c.toNat = 0x205F || c.toNat = 0x3000

def dropBlanksAtEnd (text : List Char) : List Char := (text.reverse.dropWhile isBlank).reverse

/-- The text without blanks at its ends. -/
def trim (text : List Char) : List Char := dropBlanksAtEnd (text.dropWhile isBlank)

/-! ### Texts without blanks -/

theorem dropWhile_isBlank {text : List Char} (h : ∀ c ∈ text, isBlank c = false) :
    text.dropWhile isBlank = text := by
  cases text with
  | nil => rfl
  | cons c rest => rw [List.dropWhile_cons, h c (List.mem_cons_self ..), if_neg Bool.false_ne_true]

/-- A text without blanks is trimmed of nothing. -/
theorem trim_of_not_blank {text : List Char} (h : ∀ c ∈ text, isBlank c = false) :
    trim text = text := by
  have hreverse : ∀ c ∈ text.reverse, isBlank c = false := fun c hc => h c (List.mem_reverse.mp hc)
  rw [trim, dropWhile_isBlank h, dropBlanksAtEnd, dropWhile_isBlank hreverse, List.reverse_reverse]

end FieldRules.Text
