import FieldRules.Text.Property

/-! Which characters can be seen when they are printed.

Controls, spaces other than the ASCII one, unassigned code points and the marks
that only extend the character before them are hidden. The characters of version
17 count as assigned. -/
namespace FieldRules.Text

/-- The visible characters that came with version 17. -/
def newVisible : CharSet := .ofGaps [
  "1ov 1 r0 1 3j 1 3xg 1 250 1 ojb 2 2 1 1 1 s 1 gk1 g cd 2 1i 7 29d q 12j 3 8 9 2h4 1 3 1 1 1",
  "g8 18 4 a fxy p 2 p 7y 5 4qp 8 zt m 2p 37 cg7 3 cd n f h 4pb v 1 3 1 2 1 7 2 5 9 2 34o 1 4e",
  "4 9h 9 aj 4 1e 1 3 1 1l 1 4 1 s 1 4 1 7e 1 10zj 6 4ma c gsi 3be"]

def hiddenBoundaries : Boundaries :=
  (((Category.setOf ["C", "Z"]).union Property.graphemeExtend.set).diff newVisible).boundaries

def isHidden (c : Char) : Bool :=
  if c.toNat < 128 then c.toNat < 32 || c.toNat = 127 else hiddenBoundaries.contains c

end FieldRules.Text
