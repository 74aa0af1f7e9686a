import FieldRules.Text.Property
import FieldRules.Text.Shift

/-! Which characters are letters and digits, and their upper-case forms.

`alphabetic` and `alphanumeric` are the properties of the character standard,
and `uppercase` its full upper-case mapping, under which a character may become
several (`\u00df` becomes `SS`). They know the characters of version 17, which
are those of the other tables and a few more. On ASCII all three are decided
without a table. -/
namespace FieldRules.Text

/-- The letters that came with version 17. -/
def newLetters : CharSet := .ofGaps [
  "1ov 1 r0 1 3j 1 ult 2 2 1 1 1 s 1 j7y q 12j 3 1e 2 2g4 8 g8 18",
  "fyc p 2 p 7y 5 4qp 8 zt m 2p 37 hjh v 1 m 8 2 154q 6 4ma c gsi 3be"]

/-- The numerals that came with version 17. -/
def newNumerals : CharSet := .ofGaps ["1kgw a g7e 3"]

def letters : Boundaries := (Property.alphabetic.set.union newLetters).boundaries

def numerals : Boundaries := ((Category.setOf ["N"]).union newNumerals).boundaries

def alphabetic (c : Char) : Bool :=
  if c.toNat < 128 then c.isAlpha else letters.contains c

def numeric (c : Char) : Bool :=
  if c.toNat < 128 then c.isDigit else numerals.contains c

def alphanumeric (c : Char) : Bool := alphabetic c || numeric c

/-! ### Upper case -/

/-- The characters with a one-character upper-case form other than themselves. -/
def upperRuns : List Shift := [
  ⟨181, 1, 1, 924⟩, ⟨224, 23, 1, 192⟩, ⟨248, 7, 1, 216⟩, ⟨255, 1, 1, 376⟩, ⟨257, 24, 2, 256⟩,
  ⟨305, 1, 1, 73⟩, ⟨307, 3, 2, 306⟩, ⟨314, 8, 2, 313⟩, ⟨331, 23, 2, 330⟩, ⟨378, 3, 2, 377⟩,
  ⟨383, 1, 1, 83⟩, ⟨384, 1, 1, 579⟩, ⟨387, 2, 2, 386⟩, ⟨392, 1, 1, 391⟩, ⟨396, 1, 1, 395⟩,
  ⟨402, 1, 1, 401⟩, ⟨405, 1, 1, 502⟩, ⟨409, 1, 1, 408⟩, ⟨410, 1, 1, 573⟩, ⟨411, 1, 1, 42972⟩,
  ⟨414, 1, 1, 544⟩, ⟨417, 3, 2, 416⟩, ⟨424, 1, 1, 423⟩, ⟨429, 1, 1, 428⟩, ⟨432, 1, 1, 431⟩,
  ⟨436, 2, 2, 435⟩, ⟨441, 1, 1, 440⟩, ⟨445, 1, 1, 444⟩, ⟨447, 1, 1, 503⟩, ⟨453, 1, 1, 452⟩,
  ⟨454, 1, 1, 452⟩, ⟨456, 1, 1, 455⟩, ⟨457, 1, 1, 455⟩, ⟨459, 1, 1, 458⟩, ⟨460, 1, 1, 458⟩,
  ⟨462, 8, 2, 461⟩, ⟨477, 1, 1, 398⟩, ⟨479, 9, 2, 478⟩, ⟨498, 1, 1, 497⟩, ⟨499, 1, 1, 497⟩,
  ⟨501, 1, 1, 500⟩, ⟨505, 20, 2, 504⟩, ⟨547, 9, 2, 546⟩, ⟨572, 1, 1, 571⟩, ⟨575, 2, 1, 11390⟩,
  ⟨578, 1, 1, 577⟩, ⟨583, 5, 2, 582⟩, ⟨592, 1, 1, 11375⟩, ⟨593, 1, 1, 11373⟩, ⟨594, 1, 1, 11376⟩,
  ⟨595, 1, 1, 385⟩, ⟨596, 1, 1, 390⟩, ⟨598, 2, 1, 393⟩, ⟨601, 1, 1, 399⟩, ⟨603, 1, 1, 400⟩,
  ⟨604, 1, 1, 42923⟩, ⟨608, 1, 1, 403⟩, ⟨609, 1, 1, 42924⟩, ⟨611, 1, 1, 404⟩, ⟨612, 1, 1, 42955⟩,
  ⟨613, 1, 1, 42893⟩, ⟨614, 1, 1, 42922⟩, ⟨616, 1, 1, 407⟩, ⟨617, 1, 1, 406⟩, ⟨618, 1, 1, 42926⟩,
  ⟨619, 1, 1, 11362⟩, ⟨620, 1, 1, 42925⟩, ⟨623, 1, 1, 412⟩, ⟨625, 1, 1, 11374⟩, ⟨626, 1, 1, 413⟩,
  ⟨629, 1, 1, 415⟩, ⟨637, 1, 1, 11364⟩, ⟨640, 1, 1, 422⟩, ⟨642, 1, 1, 42949⟩, ⟨643, 1, 1, 425⟩,
  ⟨647, 1, 1, 42929⟩, ⟨648, 1, 1, 430⟩, ⟨649, 1, 1, 580⟩, ⟨650, 2, 1, 433⟩, ⟨652, 1, 1, 581⟩,
  ⟨658, 1, 1, 439⟩, ⟨669, 1, 1, 42930⟩, ⟨670, 1, 1, 42928⟩, ⟨837, 1, 1, 921⟩, ⟨881, 2, 2, 880⟩,
  ⟨887, 1, 1, 886⟩, ⟨891, 3, 1, 1021⟩, ⟨940, 1, 1, 902⟩, ⟨941, 3, 1, 904⟩, ⟨945, 17, 1, 913⟩,
  ⟨962, 1, 1, 931⟩, ⟨963, 9, 1, 931⟩, ⟨972, 1, 1, 908⟩, ⟨973, 2, 1, 910⟩, ⟨976, 1, 1, 914⟩,
  ⟨977, 1, 1, 920⟩, ⟨981, 1, 1, 934⟩, ⟨982, 1, 1, 928⟩, ⟨983, 1, 1, 975⟩, ⟨985, 12, 2, 984⟩,
  ⟨1008, 1, 1, 922⟩, ⟨1009, 1, 1, 929⟩, ⟨1010, 1, 1, 1017⟩, ⟨1011, 1, 1, 895⟩, ⟨1013, 1, 1, 917⟩,
  ⟨1016, 1, 1, 1015⟩, ⟨1019, 1, 1, 1018⟩, ⟨1072, 32, 1, 1040⟩, ⟨1104, 16, 1, 1024⟩,
  ⟨1121, 17, 2, 1120⟩, ⟨1163, 27, 2, 1162⟩, ⟨1218, 7, 2, 1217⟩, ⟨1231, 1, 1, 1216⟩,
  ⟨1233, 48, 2, 1232⟩, ⟨1377, 38, 1, 1329⟩, ⟨4304, 43, 1, 7312⟩, ⟨4349, 3, 1, 7357⟩,
  ⟨5112, 6, 1, 5104⟩, ⟨7296, 1, 1, 1042⟩, ⟨7297, 1, 1, 1044⟩, ⟨7298, 1, 1, 1054⟩,
  ⟨7299, 2, 1, 1057⟩, ⟨7301, 1, 1, 1058⟩, ⟨7302, 1, 1, 1066⟩, ⟨7303, 1, 1, 1122⟩,
  ⟨7304, 1, 1, 42570⟩, ⟨7306, 1, 1, 7305⟩, ⟨7545, 1, 1, 42877⟩, ⟨7549, 1, 1, 11363⟩,
  ⟨7566, 1, 1, 42950⟩, ⟨7681, 75, 2, 7680⟩, ⟨7835, 1, 1, 7776⟩, ⟨7841, 48, 2, 7840⟩,
  ⟨7936, 8, 1, 7944⟩, ⟨7952, 6, 1, 7960⟩, ⟨7968, 8, 1, 7976⟩, ⟨7984, 8, 1, 7992⟩,
  ⟨8000, 6, 1, 8008⟩, ⟨8017, 4, 2, 8025⟩, ⟨8032, 8, 1, 8040⟩, ⟨8048, 2, 1, 8122⟩,
  ⟨8050, 4, 1, 8136⟩, ⟨8054, 2, 1, 8154⟩, ⟨8056, 2, 1, 8184⟩, ⟨8058, 2, 1, 8170⟩,
  ⟨8060, 2, 1, 8186⟩, ⟨8112, 2, 1, 8120⟩, ⟨8126, 1, 1, 921⟩, ⟨8144, 2, 1, 8152⟩,
  ⟨8160, 2, 1, 8168⟩, ⟨8165, 1, 1, 8172⟩, ⟨8526, 1, 1, 8498⟩, ⟨8560, 16, 1, 8544⟩,
  ⟨8580, 1, 1, 8579⟩, ⟨9424, 26, 1, 9398⟩, ⟨11312, 48, 1, 11264⟩, ⟨11361, 1, 1, 11360⟩,
  ⟨11365, 1, 1, 570⟩, ⟨11366, 1, 1, 574⟩, ⟨11368, 3, 2, 11367⟩, ⟨11379, 1, 1, 11378⟩,
  ⟨11382, 1, 1, 11381⟩, ⟨11393, 50, 2, 11392⟩, ⟨11500, 2, 2, 11499⟩, ⟨11507, 1, 1, 11506⟩,
  ⟨11520, 38, 1, 4256⟩, ⟨11559, 1, 1, 4295⟩, ⟨11565, 1, 1, 4301⟩, ⟨42561, 23, 2, 42560⟩,
  ⟨42625, 14, 2, 42624⟩, ⟨42787, 7, 2, 42786⟩, ⟨42803, 31, 2, 42802⟩, ⟨42874, 2, 2, 42873⟩,
  ⟨42879, 5, 2, 42878⟩, ⟨42892, 1, 1, 42891⟩, ⟨42897, 2, 2, 42896⟩, ⟨42900, 1, 1, 42948⟩,
  ⟨42903, 10, 2, 42902⟩, ⟨42933, 8, 2, 42932⟩, ⟨42952, 2, 2, 42951⟩, ⟨42957, 8, 2, 42956⟩,
  ⟨42998, 1, 1, 42997⟩, ⟨43859, 1, 1, 42931⟩, ⟨43888, 80, 1, 5024⟩, ⟨65345, 26, 1, 65313⟩,
  ⟨66600, 40, 1, 66560⟩, ⟨66776, 36, 1, 66736⟩, ⟨66967, 11, 1, 66928⟩, ⟨66979, 15, 1, 66940⟩,
  ⟨66995, 7, 1, 66956⟩, ⟨67003, 2, 1, 66964⟩, ⟨68800, 51, 1, 68736⟩, ⟨68976, 22, 1, 68944⟩,
  ⟨71872, 32, 1, 71840⟩, ⟨93792, 32, 1, 93760⟩, ⟨93883, 25, 1, 93856⟩, ⟨125218, 34, 1, 125184⟩]

/-- The characters whose upper-case form is more than one character. -/
def upperExpansions : List (Char × String) := [
  ('\u00df', "SS"), ('\u0149', "\u02bcN"), ('\u01f0', "J\u030c"), ('\u0390', "\u0399\u0308\u0301"),
  ('\u03b0', "\u03a5\u0308\u0301"), ('\u0587', "\u0535\u0552"), ('\u1e96', "H\u0331"),
  ('\u1e97', "T\u0308"), ('\u1e98', "W\u030a"), ('\u1e99', "Y\u030a"), ('\u1e9a', "A\u02be"),
  ('\u1f50', "\u03a5\u0313"), ('\u1f52', "\u03a5\u0313\u0300"), ('\u1f54', "\u03a5\u0313\u0301"),
  ('\u1f56', "\u03a5\u0313\u0342"), ('\u1f80', "\u1f08\u0399"), ('\u1f81', "\u1f09\u0399"),
  ('\u1f82', "\u1f0a\u0399"), ('\u1f83', "\u1f0b\u0399"), ('\u1f84', "\u1f0c\u0399"),
  ('\u1f85', "\u1f0d\u0399"), ('\u1f86', "\u1f0e\u0399"), ('\u1f87', "\u1f0f\u0399"),
  ('\u1f88', "\u1f08\u0399"), ('\u1f89', "\u1f09\u0399"), ('\u1f8a', "\u1f0a\u0399"),
  ('\u1f8b', "\u1f0b\u0399"), ('\u1f8c', "\u1f0c\u0399"), ('\u1f8d', "\u1f0d\u0399"),
  ('\u1f8e', "\u1f0e\u0399"), ('\u1f8f', "\u1f0f\u0399"), ('\u1f90', "\u1f28\u0399"),
  ('\u1f91', "\u1f29\u0399"), ('\u1f92', "\u1f2a\u0399"), ('\u1f93', "\u1f2b\u0399"),
  ('\u1f94', "\u1f2c\u0399"), ('\u1f95', "\u1f2d\u0399"), ('\u1f96', "\u1f2e\u0399"),
  ('\u1f97', "\u1f2f\u0399"), ('\u1f98', "\u1f28\u0399"), ('\u1f99', "\u1f29\u0399"),
  ('\u1f9a', "\u1f2a\u0399"), ('\u1f9b', "\u1f2b\u0399"), ('\u1f9c', "\u1f2c\u0399"),
  ('\u1f9d', "\u1f2d\u0399"), ('\u1f9e', "\u1f2e\u0399"), ('\u1f9f', "\u1f2f\u0399"),
  ('\u1fa0', "\u1f68\u0399"), ('\u1fa1', "\u1f69\u0399"), ('\u1fa2', "\u1f6a\u0399"),
  ('\u1fa3', "\u1f6b\u0399"), ('\u1fa4', "\u1f6c\u0399"), ('\u1fa5', "\u1f6d\u0399"),
  ('\u1fa6', "\u1f6e\u0399"), ('\u1fa7', "\u1f6f\u0399"), ('\u1fa8', "\u1f68\u0399"),
  ('\u1fa9', "\u1f69\u0399"), ('\u1faa', "\u1f6a\u0399"), ('\u1fab', "\u1f6b\u0399"),
  ('\u1fac', "\u1f6c\u0399"), ('\u1fad', "\u1f6d\u0399"), ('\u1fae', "\u1f6e\u0399"),
  ('\u1faf', "\u1f6f\u0399"), ('\u1fb2', "\u1fba\u0399"), ('\u1fb3', "\u0391\u0399"),
  ('\u1fb4', "\u0386\u0399"), ('\u1fb6', "\u0391\u0342"), ('\u1fb7', "\u0391\u0342\u0399"),
  ('\u1fbc', "\u0391\u0399"), ('\u1fc2', "\u1fca\u0399"), ('\u1fc3', "\u0397\u0399"),
  ('\u1fc4', "\u0389\u0399"), ('\u1fc6', "\u0397\u0342"), ('\u1fc7', "\u0397\u0342\u0399"),
  ('\u1fcc', "\u0397\u0399"), ('\u1fd2', "\u0399\u0308\u0300"), ('\u1fd3', "\u0399\u0308\u0301"),
  ('\u1fd6', "\u0399\u0342"), ('\u1fd7', "\u0399\u0308\u0342"), ('\u1fe2', "\u03a5\u0308\u0300"),
  ('\u1fe3', "\u03a5\u0308\u0301"), ('\u1fe4', "\u03a1\u0313"), ('\u1fe6', "\u03a5\u0342"),
  ('\u1fe7', "\u03a5\u0308\u0342"), ('\u1ff2', "\u1ffa\u0399"), ('\u1ff3', "\u03a9\u0399"),
  ('\u1ff4', "\u038f\u0399"), ('\u1ff6', "\u03a9\u0342"), ('\u1ff7', "\u03a9\u0342\u0399"),
  ('\u1ffc', "\u03a9\u0399"), ('\ufb00', "FF"), ('\ufb01', "FI"), ('\ufb02', "FL"),
  ('\ufb03', "FFI"), ('\ufb04', "FFL"), ('\ufb05', "ST"), ('\ufb06', "ST"),
  ('\ufb13', "\u0544\u0546"), ('\ufb14', "\u0544\u0535"), ('\ufb15', "\u0544\u053b"),
  ('\ufb16', "\u054e\u0546"), ('\ufb17', "\u0544\u053d")]

def uppercase (c : Char) : List Char :=
  if c.toNat < 128 then [c.toUpper]
  else
    match upperExpansions.find? fun entry => entry.1 = c with
    | some (_, expansion) => expansion.toList
    | none =>
      match upperRuns.find? fun run => run.covers c.toNat with
      | some run => [Char.ofNat (run.counterpart c.toNat)]
      | none => [c]

end FieldRules.Text
