import FieldRules.Text.Category

/-! The properties of characters that have names.

A property holds of the characters of some general categories, but for the
exceptions it lists: the character is in one of the categories or among the
exceptions, and not both. -/
namespace FieldRules.Text

structure Property where
  /-- In lower case and without separators. -/
  names : List String
  categories : List String
  /-- Gaps between boundaries. -/
  exceptions : List String

namespace Property

def set (p : Property) : CharSet := (Category.setOf p.categories).symmDiff (.ofGaps p.exceptions)

/-- Among properties, or among the values of one, the set of the one so named. -/
def find? (properties : List Property) (name : String) : Option CharSet :=
  (properties.find? fun p => p.names.contains name).map set

def alphabetic : Property :=
  ⟨["alphabetic", "alpha"], ["L", "Nl"], [
    "n9 1 t d g0 e 1 1 1 2 1 2 1 1 20 b 1c d 1 7 g 1 2t 7 4 4 2 2 4 1 z 1 u g 2u b 2t 2 3 9 1 3",
    "1 4 2y 1 1o c 3 7 6 k 1i 2 2 f 1 2 5 3 a 2 t 3 1m 7 2 2 2 2 a 1 a 2 t 3 1m 5 4 2 2 2 4 1 u",
    "2 3 1 b 3 1m 8 1 3 1 2 l 2 m 3 4 3 1m 7 2 2 2 2 9 2 a 2 u 1 1n 5 3 3 1 3 a 1 14 5 1l 7 1 3",
    "1 3 8 2 b 2 t 3 1m 7 1 3 1 3 8 2 b 2 f 1 c 4 1m 7 1 3 1 3 a 1 a 2 t 3 23 6 1 1 1 8 i 2 1p",
    "1 2 7 i 1 2r 1 2 6 1 2 g 1 4j j 9 b 1 10 32 c 1 1 2 4 n 4 4 3 1 3 2 7 3 4 d c 1 1 a 4 19w",
    "2 u 2 u 2 u 2 1u j 58 2 y 1 3a c 4 9 66 5 1l a 2 k 22 2 b 3 1d 5 1c f 1o 3 u 9 2 2 1l b 1e",
    "j bg y 1c1 1g 1rq w nsk 8 y 2 9u 1 8 1 n 5 2g 2 1e g 1 1 1l 1 12 5 s c 19 4 1c c 11 1 1v e",
    "c 1 8 2 19 3 1e 1 1 3 2 2 5 1 18 5 5 1 6l 8 fn7 1 1nb 5 1ae 3 1 2 5 4 lw 4 1t 1 8x 2 27 1",
    "77 3 1h e 19 2 b 3 19 9 9 1 1p 3 10 c i 2 1l 3 1c d e 2 2k 9 2 1 6 1 2 1 4d a n 4 1m 7 2 2",
    "2 2 a 1 a 2 2c 9 1 1 2 1 1 4 1 2 2v d 1 3 2y i 6l 7 2 7 t 2 2a f 1 1 2y b 2v e 75 d 6v 6 1",
    "2 2 2 3 1 1 1 3y 7 2 6 4 1 s a 16 5 1 4 i b 1a e bb 8 1 7 2b m 1 e 3e 6 3 1 1 2 1 3 1 1 3",
    "1 1u 5 1 2 1 4 9o 4 9 2 1 1 1c 7 3 3 d0d h 2sg 1 1 1j 7 4 2l 2 f58 1 6zl 7 1 h 2 7 1 2 1 5",
    "2s 1 1pz 1 1k8 q 6 q 6 q"]⟩

def graphemeExtend : Property :=
  ⟨["graphemeextend", "grext"], ["Me", "Mn"], [
    "1xa 1 o 1 9y 1 o 1 2u 1 o 1 6g 1 1 1 4 2 1 2 9 2 2v 1 o 1 3b 1 f 1 1th 1 u 1 sg 1 5 1 1 1",
    "5 2 2t 1 1z 2 t4 1 36p 2 nxf 1 30 1 gyl 2 3kw 1 38 1 7c 1 e 1 9 1 2o 1 9 1 2 1 1 3 5 1 68",
    "1 c 1 6p 1 7a 1 hl 1 c 1 16r 1 fxq 2 j8z 2 6 6 h419 2o"]⟩

def all : List Property := alphabetic :: graphemeExtend :: [
  ⟨["asciihexdigit", "ahex"], [], ["1c a 7 6 q 6"]⟩,
  ⟨["bidicontrol", "bidic"], [], ["17g 1 54h 2 q 5 1j 4"]⟩,
  ⟨["bidimirrored", "bidim"], ["Pe", "Pf", "Pi", "Ps"], [
    "1o 1 1 1 6ah 8 80 1 5c 4 3 6 3 1 3 2 3 4 1 4 1 1 1 1 4 9 5 1 1 i 5 4 9 2 1 1 1 8 1 w 2 4 5",
    "1 9 2 2 j 5 2 9 5 2 2 4 o 2 g w 2 wu 1 2 2 3 2 1 3 5 4 5 3 3 4 c5 6 1 e 8 1 7 6 3 1 4 5 1",
    "2 6 1 4 1 1 3 2 2 a 6 g j 1 4 2 1 1 1 2 1 1 4 5 2 6 3 o 2 b 2 4 4 1 2 2 2 4 17 2 8 1 14 5",
    "1 1 1 3 5 5 3 4 1 3 5 1 1 74 1 g3 1 d6 3 14im 2 5z 2 s g 2 2 r 2 52 1 1 1 16m4 1 1l 1 1l 1",
    "1l 1 1l 1"]⟩,
  ⟨["caseignorable", "ci"], ["Cf", "Lm", "Me", "Mn", "Sk"], [
    "13 1 6 1 b 1 3g 1 jz 1 d3 1 44 1 55v 2 a 1 2 1 17u3 1 1q 1 2 1 4x 1 6 1 b 1"]⟩,
  ⟨["cased"], ["Ll", "Lt", "Lu"], [
    "4q 1 f 1 dx 9 7 2 u 5 2o 1 1g 1 2o1 1 2en 1r d 1 y 11 j5 1 d 1 g d 5f w mu 1g 1hu 2 o4e 2",
    "5u 1 3l 3 3 2 o2 4 9 1 i6u 1 2 3 1 16 1 9 16r9 1q 3b6 q 6 q 6 q"]⟩,
  ⟨["changeswhencasefolded", "cwcf"], ["Lt", "Lu"], [
    "51 1 15 1 2x 1 1h 1 cl 1 3g 1 d 7 p 2 3 1 b5 1 2s8 2e 2 6 1oi 9 ep 2 6c 8 8 8 8 8 a 3 2 1",
    "a 3 2 1 16 3 2 1 7e 1 4 1 3 3 2 3 2 1 3 5 6 1 3 1 3 2 2 2 1 1 a 2 5 1 q g na q qlc 28 fnk",
    "7 c 5 16ug q q q q q q 1 1 2 2 1 2 2 2 4 1 8 q q q 2 1 4 2 8 1 7 r 2 1 4 1 5 1 1 3 7 r q q",
    "q q q q q q q q q u p x p x p x p x p x 1"]⟩,
  ⟨["changeswhencasemapped", "cwcm"], ["Ll", "Lt", "Lu"], [
    "8o 1 2c 1 s 2 e 1 3 1 2q 1 i 6 r 1 2 1 1 1 2 3 2 1 4 1 5 2 1 1 2 2 1 7 1 2 1 1 2 3 6 5 1 1",
    "1 8 2 h 45 1 3w 3 13 1 9v 1 13 1 4mv 18 1r d 2 3 1 g 1 c 75 2 1 1 gy 1 4 1 2 a 1 1 3 5 6 1",
    "3 1 3 2 1 3 1 2 4 1 2 4 5 5 m w mu 1g 1hj 1 2 1 2 5 2w 1 o5n 2 1r 8 l 1 6 1 p 1 z 1 1 1 10",
    "1 mt z 1 7 5 9 1ml3 2d 1 1z 1 2 2 1 2 2 2 4 1 c 1 1 1 7 1 1t 1 4 2 8 1 7 1 s 1 4 1 5 1 1 3",
    "7 1 9g 2 p 1 p 1 v 1 p 1 v 1 p 1 v 1 p 1 v 1 p 1 8 1f8 a 1 k 6 6"]⟩,
  ⟨["changeswhenlowercased", "cwl"], ["Lt", "Lu"], [
    "r6 3 5rh 1 4 1 3 3 2 3 2 1 3 5 6 1 3 1 3 2 2 2 1 1 a 2 5 1 q g na q 2d68 q q q q q q 1 1 2",
    "2 1 2 2 2 4 1 8 q q q 2 1 4 2 8 1 7 r 2 1 4 1 5 1 1 3 7 r q q q q q q q q q q q u p x p x",
    "p x p x p x 1"]⟩,
  ⟨["changeswhentitlecased", "cwt"], ["Ll"], [
    "8o 1 2c 1 s 2 e 1 3 1 5 1 2 1 2 1 12 1 1b 1 i 6 r 1 2 1 1 1 2 3 2 1 4 1 5 2 1 1 2 2 1 7 1",
    "2 1 1 2 3 6 5 1 1 1 8 2 h 45 1 52 1 9v 1 13 1 287 17 2 3 2dc 18 1r d 2 3 1 g 1 c 75 2 1 1",
    "h6 1 3 2 3 1 r 1 4 1 4 1 2 2 8 4 12 g nk q 1hj 1 2 1 2 5 2w 1 o5n 2 1r 8 l 1 6 1 p 1 z 1 1",
    "1 10 1 mt z 1 7 5 9 1mlt q q 7 1 i q q q 4 1 1 1 7 1 b q q q q q q q q q q q q q q q q q s",
    "s p 1 6 q p 1 6 q p 1 6 q p 1 6 q p 1 6 1 1 1f8 a 1 k 6 6"]⟩,
  ⟨["changeswhenuppercased", "cwu"], ["Ll", "Lt"], [
    "8o 1 2c 1 s 2 e 1 3 1 2q 1 i 6 r 1 2 1 1 1 2 3 2 1 4 1 5 2 1 1 2 2 1 7 1 2 1 1 2 3 6 5 1 1",
    "1 8 2 h 45 1 52 1 9v 1 13 1 4mv 18 1r d 2 3 1 g 1 c 75 2 1 1 h6 1 3 2 3 1 r 1 4 1 4 1 2 2",
    "8 4 12 g nk q 1hj 1 2 1 2 5 2w 1 o5n 2 1r 8 l 1 6 1 p 1 z 1 1 1 10 1 mt z 1 7 5 9 1mlt q q",
    "7 1 i q q q 4 1 1 1 7 1 b q q q q q q q q q q q q q q q q q s s p 1 6 q p 1 6 q p 1 6 q p",
    "1 6 q p 1 6 1 1 1f8 a 1 k 6 6"]⟩,
  ⟨["dash"], ["Pd"], ["6dv 1 13 1 f 1 au 1"]⟩,
  ⟨["defaultignorablecodepoint", "di"], [], [
    "4t 1 ip 1 jw 1 282 2 18z 2 2d 5 1kr 5 q 5 1d g 3ck 1 14ez g 6n 1 4g 1 27 9 119j 4 43z 8",
    "h405 35s"]⟩,
  ⟨["deprecated", "dep"], [], ["95 1 10p 1 1s3 1 1 1 1m1 2 1qd 6 jd 2 jh06 1"]⟩,
  ⟨["diacritic", "dia"], ["Sk"], [
    "53 1 e0 i 4 c e 5 7 1 1 1 h 27 1 8 5 6 h 1 5 1 7c 5 5t 1 1j h 1 r 1 1 1 2 1 1 3q 8 4 2 3q",
    "2 4 2 3 3 1v r 2j b 1m b y 2 32 1 f 8 15 a g s 1p 1 g 1 3 4 s 1 22 1 g 1 32 1 g 1 32 1 g 1",
    "1b 3 1o 1 g 1 7 1 3b 1 32 1 g 1 32 1 g 1 31 2 g 1 3g 1 33 1 c 6 1 1 2z 1 d 5 23 2 r 1 1 1",
    "1 1 4 2 1u 3 1 2 1q 1 34 1 1 2 14 2 4 5 p 7 1 1 a 2 jl 3 qc 2 u 1 44 b 9 1 9n 3 84 1 k 8 2",
    "1 1c f 2 b 2w 1 f 1 12 9 1i 2 1m 1 b 2 1u 2 1s 6 2a p 4 1 6 1 2 3 1e 1r 2h c 11 b 2y7 3 8t",
    "1 e2 6 2x 2 2p 1 n76 1 c 2 1 1 s 2 2a 2 11 9 2w 1 33 2 c 1 11 1 47 1 r i 1l 4 10 1 2n 1 c",
    "1 10 1 45 3 1t 4 1f 1 2t 4 9 1 3m 2 fn4 1 43 h gt g 8w 1 19 2 n4 1 wv 6 1 16 1 9 hp 3 4 1",
    "4l 2 fv 6 12 1 q 5 b3 3 1y b 1d 4 5c 1 15 1 20 2 3c 2 1q 1 24 1 9 3 2w 2 4y 2 28 2 g 1 o 7",
    "3 5 2h 3 1 2 d 2 2n 1 3 1 3f 2 6z 2 3i 1 3a 2 37 1 7h 2 76 2 4 1 4c 1 2b 1 i 1 29 1 bp 1",
    "76 1 1 2 29 1 bt 2 n 1 44s f 8ux 1 1xc 5 1n 7 fo 2 f6 h 28 2 cn2 4 1 7 1 2 64h 1a 2 n f4 3",
    "3 6 8 8 2 7 u 4 2v6 1q 5e 7 af 1 1p 4 la 2 kg 7 31 3 1 3 240 5"]⟩,
  ⟨["emoji"], [], [
    "z 1 6 1 5 a 33 1 4 1 68d 1 c 1 60 1 m 1 2i 6 f 2 a7 2 c 1 4m 1 p b 4 3 5j 1 6f 2 a 1 9 1",
    "1m 4 1 5 9 1 2 1 2 2 2 1 4 1 2 1 1 2 2 1 3 1 3 2 8 3 5 1 1 1 5 c b 2 2 1 1 2 1 1 i 1 2 2 i",
    "6 1 1 1 2 3 2 5 1 2 2 4 2 b 2 5 2 2 1 5 2 1 1 1 2 k 2 5 6 1 4 2 1 4 1 2 1 2 6 1 1 2 1 1 1",
    "1 1 6 1 3 1 6 1 a 2 f 1 2 1 4 1 1 1 4 3 1 1 b 2 1c 3 9 1 e 1 e 1 ac 2 cv 3 j 2 1f 1 4 1 yi",
    "1 c 1 gp 1 1 1 2fze 1 5m 1 4g 2 c 2 e 1 2 a 23 q 1 2 n 1 k 1 2 9 l 2 4u y 2 34 2 2 1 3 2",
    "2b 2 3 1 7b 1 1r b 6 1 o 7 2 2 8 c 1 2 4 2 1 4 2 d 2 2 1 8 2 9 1 5 3 c 3 8 3 2 1 1 1 4 1 6",
    "1 3 1 6 2e 1c 1y 5 8 2 3 4 a 3 1 1 2 3 1 2 a 6b c 4 1 7v 1b 1 a 1 55 34 d 3 a 5 1k 7 f 2 b",
    "6 9"]⟩,
  ⟨["emojicomponent", "ecomp"], [], ["z 1 6 1 5 a 6ab 1 5x 1 17or 1 1c5y q e3 5 14g 4 gw30 2o"]⟩,
  ⟨["emojimodifier", "emod"], [], ["2qrf 5"]⟩,
  ⟨["emojimodifierbase", "ebase"], [], [
    "7j1 1 63 1 g 4 2iyf 1 1o 3 2 1 2 3 39 2 2 b l j 3 1 4 3 1 3 7 1 1 1 o 1 5l 2 4 1 l 1 4 2",
    "4u 3 3 5 2b 1 g 3 9 1 b 1 fz 1 2 1 8 8 6 1 9 a 2 3 1k 1 1p 2 1 2 1 1 h 3 1 d 6d 3 16 9"]⟩,
  ⟨["emojipresentation", "epres"], [], [
    "6xm 2 5p 4 3 1 2 1 eh 2 l 2 1e c 17 1 j 1 d 1 8 2 h 2 5 2 8 1 5 1 l 1 7 2 1 1 4 1 2 1 7 1",
    "4 2 s 1 z 1 1 1 4 3 1 1 1p 3 o 1 e 1 nv 2 1f 1 4 1 2hf2 1 5m 1 5a 1 2 a 23 q 1 1 o 1 k 1 2",
    "5 1 3 l 2 4u x c 9 1 1y 1 m c 17 4 5 c h 3 1 3 1z 1 1 1 57 2 1r d 4 1 o i 1 q 2 d 1 2e 2d",
    "1c 1y 6 1 3 3 2 3 4 4 b 2 7 9 6b c 4 1 7v 1b 1 a 1 55 34 d 3 a 5 1k 7 f 2 b 6 9"]⟩,
  ⟨["extendedpictographic", "extpict"], [], [
    "4p 1 4 1 68d 1 c 1 60 1 m 1 2i 6 f 2 a7 2 c 1 2n 1 1y 1 p b 4 3 5j 1 6f 2 a 1 9 1 1m 4 1 6",
    "1 c 1 36 a 3a 2 b 1 1 1 1 6 1 3 1 6 1 a 2 f 1 2 1 4 1 1 1 4 3 1 1 b 5 19 3 9 1 e 1 e 1 ac",
    "2 cv 3 j 2 1f 1 4 1 yi 1 c 1 gp 1 1 1 2fza 74 d 3 v 1 1o 6 c 2 e 1 2 a i 1l r f a 1 k 1 2",
    "9 1 4 9 c2 5 8u 8 7e 1c 3k 38 c 2d 17 c 4 1k 8 a 6 14 8 u 2a c 1b 1 a 1 c9 74 se"]⟩,
  ⟨["extender", "ext"], [], [
    "53 1 ew 2 oe 1 c9 1 hi 1 3t 1 2h 1 kw 1 3j 1 1tv 1 1k 1 gz 1 b2 1 1w 1 3ux 1 17 5 2v 2 2l",
    "3 lxy 1 16e 1 qq 1 m 1 3t 1 30 1 l 2 gor 1 1lc 2 157 1 r 1 4 1 xz 1 85 1 38 2 du 3 y7 1",
    "fxl 2 ws 2 1 1 me0 2 xd 1 no 3"]⟩,
  ⟨["graphemebase", "grbase"], ["L", "Mc", "N", "P", "S", "Zs"], [
    "1xa 1 o 1 9y 1 o 1 2u 1 o 1 6g 1 1 1 4 2 1 2 9 2 2v 1 o 1 3b 1 f 1 1th 1 u 1 sg 1 5 1 1 1",
    "5 2 2t 1 1z 2 3zu 2 nxf 1 30 1 gyl 2 3kw 1 38 1 7c 1 e 1 9 1 2o 1 9 1 2 1 1 3 5 1 68 1 c 1",
    "6p 1 7a 1 hl 1 c 1 16r 1 fxq 2 j8z 2 6 6"]⟩,
  ⟨["graphemelink", "grlink"], [], [
    "1u5 1 3j 1 3j 1 3j 1 3j 1 3j 1 3j 1 3j 1 31 2 g 1 3g 1 33 1 3j 1 5l 1 50 2 1cp 2 u 1 4d 1",
    "i5 1 6b 1 2t 2 1y 2 3gr 1 o7a 1 11 1 47 1 3y 1 30 1 8l 1 6u 1 imp 1 16u 1 15 1 e 1 1l 1 3d",
    "2 3v 1 38 1 50 1 2q 1 3k 3 35 1 3j 1 70 1 3j 1 3a 1 38 1 7h 1 77 2 4h 1 2b 1 i 1 29 1 bp 1",
    "78 2 29 1 bt 2 d0s 1"]⟩,
  ⟨["hexdigit", "hex"], [], ["1c a 7 6 q 6 1eax a 7 6 q 6"]⟩,
  ⟨["hyphen"], [], ["19 1 3j 1 yk 1 3nf 1 1l5 2 2rp 1 kj 1 14kn 1 4p 1 2f 1"]⟩,
  ⟨["idsbinaryoperator", "idsb"], [], ["9gw 2 2 a dt 1"]⟩,
  ⟨["idstrinaryoperator", "idst"], [], ["9gy 2"]⟩,
  ⟨["idsunaryoperator", "idsu"], [], ["9ha 2"]⟩,
  ⟨["idcompatmathcontinue"], [], [
    "4y 2 5 1 69i 1 3 b 1 f ab 1 4 1 m 1 2e8y 1 p 1 v 1 p 1 v 1 p 1 v 1 p 1 v 1 p 1"]⟩,
  ⟨["idcompatmathstart"], [], ["6pu 1 4 1 m 1 2e8y 1 p 1 v 1 p 1 v 1 p 1 v 1 p 1 v 1 p 1"]⟩,
  ⟨["idcontinue", "idc"], ["L", "Mc", "Mn", "Nd", "Nl", "Pc"], [
    "53 1 jz 1 34x 9 19k 1 181 2 7e 1 l 1 2kg 1 h7 2 2m 1 14rt 1"]⟩,
  ⟨["idstart", "ids"], ["L", "Nl"], ["4ud 2 1ox 1 l 1 2kg 1 h7 2"]⟩,
  ⟨["ideographic", "ideo"], [], [
    "9hi 2 p 9 e 3 qt 534 1s g74 hkw a6 2 2y n4a 1 r 4qg 8 ye 15 a 76v b0 f7o wyo w 37e 6 66 2",
    "4g2 e 5rl f ha 1wi f2 15u 3t7 5 38g"]⟩,
  ⟨["joincontrol", "joinc"], [], ["6bw 2"]⟩,
  ⟨["logicalorderexception", "loe"], [], ["2tc 5 3f 5 25s 3 2 1 smy 2 2 1 1 2"]⟩,
  ⟨["lowercase", "lower"], ["Ll"], [
    "4q 1 f 1 dx 9 7 2 u 5 2o 1 1g 1 2o1 1 2en 1r d 1 y 11 j5 1 d 1 g d 5v g nk q 1hu 2 o4e 2",
    "5u 1 3l 3 3 2 o2 4 9 1 i6u 1 2 3 1 16 1 9 16r9 1q"]⟩,
  ⟨["math"], ["Sm"], [
    "2m 1 oh 3 2 1 q 2 2 2 5k0 1 r 3 b 1 w 4 o 2 e 2 1t d 4 1 3 2 4 5 i 1 4 1 2 a 1 1 3 5 6 1 3",
    "2 2 2 1 3 1 6 3 4 5 5 23 5 2 4 1 2 1 2 1 1 1 5 2 2 4 2 4 i 2 2 1 1 1 7 1 1 6 2 82 4 4o 2 1",
    "1 o 1 h 1 cd 2 c 9 5 5 5 2 2 2 3 5 e 1 1 1 2 6 o 2 1l 1 1 1 t 4 9 2 9i 2 v a b7 m 1r 4 w 2",
    "15yb 1 1 1 4 1 5v 1 1 1 160x 2d 1 1z 1 2 2 1 2 2 2 4 1 c 1 1 1 7 1 1t 1 4 2 8 1 7 1 s 1 4",
    "1 5 1 1 3 7 1 9g 2 p 1 p 1 v 1 p 1 v 1 p 1 v 1 p 1 v 1 p 1 8 2 1e 4cg 4 1 r 1 2 1 1 2 1 1",
    "a 1 4 1 1 1 1 6 1 4 1 1 1 1 1 1 3 1 2 1 1 2 1 1 1 1 1 1 1 1 1 1 2 1 1 2 4 1 7 1 4 1 4 1 1",
    "1 a 1 h 5 3 1 5 1 h"]⟩,
  ⟨["modifiercombiningmark", "mcm"], [], ["190 2 2 1 3n 1 6 1 3 2 dd 2 1 3 3 1 v 1"]⟩,
  ⟨["noncharactercodepoint", "nchar"], ["Co"], [
    "188w 4xs y8 w em 2 1eke 2 1eke 2 1eke 2 1eke 2 1eke 2 1eke 2 1eke 2 1eke 2 1eke 2 1eke 2",
    "1eke 2 1eke 2 1eke 2 1eke 2t4y"]⟩,
  ⟨["otheralphabetic", "oalpha"], [], [
    "n9 1 t d g0 e 1 1 1 2 1 2 1 1 20 b 1c d 1 7 g 1 2t 7 4 4 2 2 4 1 z 1 u g 2u b 2t 2 3 9 1 3",
    "1 4 2y 1 1o c 3 7 6 k 1i 2 2 f 1 2 5 3 a 2 t 3 1m 7 2 2 2 2 a 1 a 2 t 3 1m 5 4 2 2 2 4 1 u",
    "2 3 1 b 3 1m 8 1 3 1 2 l 2 m 3 4 3 1m 7 2 2 2 2 9 2 a 2 u 1 1n 5 3 3 1 3 a 1 14 5 1l 7 1 3",
    "1 3 8 2 b 2 t 3 1m 7 1 3 1 3 8 2 b 2 f 1 c 4 1m 7 1 3 1 3 a 1 a 2 t 3 23 6 1 1 1 8 i 2 1p",
    "1 2 7 i 1 2r 1 2 6 1 2 g 1 4j j 9 b 1 10 32 c 1 1 2 4 n 4 4 3 1 3 2 7 3 4 d c 1 1 a 4 19w",
    "2 u 2 u 2 u 2 1u j 58 2 y 1 3a c 4 9 66 5 1l a 2 k 22 2 b 3 1d 5 1c f 1o 3 u 9 2 2 1l b 1e",
    "j bg y 1c1 1g 1rq w nsk 8 y 2 9u 1 8 1 n 5 2g 2 1e g 1 1 1l 1 12 5 s c 19 4 1c c 11 1 1v e",
    "c 1 8 2 19 3 1e 1 1 3 2 2 5 1 18 5 5 1 6l 8 fn7 1 1nb 5 1ae 3 1 2 5 4 lw 4 1t 1 8x 2 27 1",
    "77 3 1h e 19 2 b 3 19 9 9 1 1p 3 10 c i 2 1l 3 1c d e 2 2k 9 2 1 6 1 2 1 4d a n 4 1m 7 2 2",
    "2 2 a 1 a 2 2c 9 1 1 2 1 1 4 1 2 2v d 1 3 2y i 6l 7 2 7 t 2 2a f 1 1 2y b 2v e 75 d 6v 6 1",
    "2 2 2 3 1 1 1 3y 7 2 6 4 1 s a 16 5 1 4 i b 1a e bb 8 1 7 2b m 1 e 3e 6 3 1 1 2 1 3 1 1 3",
    "1 1u 5 1 2 1 4 9o 4 9 2 1 1 1c 7 3 3 d0d h 2sg 1 1 1j 7 4 2l 2 f58 1 6zl 7 1 h 2 7 1 2 1 5",
    "2s 1 1pz 1 1k8 q 6 q 6 q"]⟩,
  ⟨["otherdefaultignorablecodepoint", "odi"], [], [
    "nj 1 2rz 2 18z 2 1pr 1 3cu 1 14qj 1 27 9 i9dz 1 1 u 2o 3k 6o 2s0"]⟩,
  ⟨["othergraphemeextend", "ogrext"], [], [
    "1xa 1 o 1 9y 1 o 1 2u 1 o 1 6g 1 1 1 4 2 1 2 9 2 2v 1 o 1 3b 1 f 1 1th 1 u 1 sg 1 5 1 1 1",
    "5 2 2t 1 1z 2 t4 1 36p 2 nxf 1 30 1 gyl 2 3kw 1 38 1 7c 1 e 1 9 1 2o 1 9 1 2 1 1 3 5 1 68",
    "1 c 1 6p 1 7a 1 hl 1 c 1 16r 1 fxq 2 j8z 2 6 6 h419 2o"]⟩,
  ⟨["otheridcontinue", "oidc"], [], ["53 1 jz 1 34x 9 19k 1 181 2 3cd 1 14rt 1"]⟩,
  ⟨["otheridstart", "oids"], [], ["4ud 2 1ox 1 l 1 31o 2"]⟩,
  ⟨["otherlowercase", "olower"], [], [
    "4q 1 f 1 dx 9 7 2 u 5 2o 1 1g 1 2o1 1 2en 1r d 1 y 11 j5 1 d 1 g d 5v g nk q 1hu 2 o4e 2",
    "5u 1 3l 3 3 2 o2 4 9 1 i6u 1 2 3 1 16 1 9 16r9 1q"]⟩,
  ⟨["othermath", "omath"], [], [
    "2m 1 oh 3 2 1 q 2 2 2 5k0 1 r 3 b 1 w 4 o 2 e 2 1t d 4 1 3 2 4 5 i 1 4 1 2 a 1 1 3 5 6 1 3",
    "2 2 2 1 3 1 6 3 4 5 5 23 5 2 4 1 2 1 2 1 1 1 5 2 2 4 2 4 i 2 2 1 1 1 7 1 1 6 2 82 4 4o 2 1",
    "1 o 1 h 1 cd 2 c 9 5 5 5 2 2 2 3 5 e 1 1 1 2 6 o 2 1l 1 1 1 t 4 9 2 9i 2 v a b7 m 1r 4 w 2",
    "15yb 1 1 1 4 1 5v 1 1 1 160x 2d 1 1z 1 2 2 1 2 2 2 4 1 c 1 1 1 7 1 1t 1 4 2 8 1 7 1 s 1 4",
    "1 5 1 1 3 7 1 9g 2 p 1 p 1 v 1 p 1 v 1 p 1 v 1 p 1 v 1 p 1 8 2 1e 4cg 4 1 r 1 2 1 1 2 1 1",
    "a 1 4 1 1 1 1 6 1 4 1 1 1 1 1 1 3 1 2 1 1 2 1 1 1 1 1 1 1 1 1 1 2 1 1 2 4 1 7 1 4 1 4 1 1",
    "1 a 1 h 5 3 1 5 1 h"]⟩,
  ⟨["otheruppercase", "oupper"], [], ["6lc g na q 2ixs q 6 q 6 q"]⟩,
  ⟨["patternsyntax", "patsyn"], [], [
    "x f a 7 q 4 1 1 q 4 y 7 1 1 1 2 1 1 1 2 4 1 4 1 3 1 n 1 v 1 654 o 8 f 2 j 1 a 8h k0 4g hi",
    "u vg e8 3k ap 3 4 p f 1 14i5 2 79 2"]⟩,
  ⟨["patternwhitespace", "patws"], ["Zl", "Zp"], ["9 5 i 1 2s 1 688 2"]⟩,
  ⟨["prependedconcatenationmark", "pcm"], [], ["16o 6 5z 1 1d 1 ao 2 28 1 1g4a 1 f 1"]⟩,
  ⟨["quotationmark", "qmark"], [], [
    "y 1 4 1 3n 1 f 1 670 8 p 2 2rr 1 cp 4 d 3 14pt 4 59 1 4 1 2i 2"]⟩,
  ⟨["radical"], [], ["96o q 1 2h c 5y"]⟩,
  ⟨["regionalindicator", "ri"], [], ["2qcm q"]⟩,
  ⟨["sentenceterminal", "sterm"], [], [
    "x 1 c 1 g 1 11l 1 43 3 50 1 17 3 6u 1 1p 1 1 1 3 2 85 2 1d0 2 ly 1 4 2 lh 1 5i 2 4d 2 19 1",
    "5 1 8q 2 9u 4 4i 2 a 2 2 2 t 3 57 2 1t 2 pw 1 n 2 9 3 2i7 3 8i 1 d 1 m 2 bx 1 n3w 1 7i 2",
    "6b 1 3 1 am 2 2e 2 2n 1 48 2 43 3 40 2 6x 1 g86 1 2 2 1n 1 3 2 4p 1 c 1 g 1 1t 1 25w 2 zh",
    "5 18 4 59 2 39 4 3j 3 3l 2 6 1 g 2 2g 2 1 2 30 1 8a 2 39 2 ad 2 5 f 2x 2 6x 3 ed 1 1 1 6z",
    "2 2f 2 bo 2 j8 2 22 2 euh 2 3p 1 1t 2 b 1 fd 2 88 1 feu 1 5wo 1"]⟩,
  ⟨["softdotted", "sd"], [], [
    "2x 2 5g 1 7t 1 u 1 1g 1 k 1 8w 1 2q 1 1 1 4y1 1 1f 1 d 1 3 1 3o 1 4d 1 bp 1 5y 2 27m 1",
    "2bol 2 1e 2 1e 2 1e 2 1e 2 1e 2 1e 2 1e 2 1e 2 1e 2 1e 2 1e 2 1e 2 1om 1 8h 2 q 1"]⟩,
  ⟨["terminalpunctuation", "term"], [], [
    "x 1 a 1 1 1 b 2 3 1 n2 1 8 1 e9 1 1l 1 20 1 e 1 1 3 50 1 17 b 1 1 6j 2 1i 6 1 8 v 1 79 2",
    "z8 2 4s 1 4 6 8n 2 lx 8 lh 1 3g 3 1z 2 4d 3 3 1 13 4 2 2 8q 2 9u 4 4i 2 a 2 1 3 t 3 57 5",
    "1q 2 pw 1 n 2 9 3 2i7 3 8i 1 d 1 4 1 a 1 1 2 3 2 bw 2 n3v 2 7h 3 6b 5 am 2 2e 2 2n 1 47 3",
    "43 3 3j 1 g 2 6x 1 g86 1 2 2 1l 3 1 4 4p 1 a 1 1 1 b 2 3 1 1t 1 2 1 u2 1 1c 1 w6 1 5j 1 8m",
    "2 48 6 1w 6 2h 4 qg 5 18 4 59 7 34 4 3j 3 3l 2 6 1 g 2 2g 5 30 1 8a 2 39 3 c 2 9y 4 3 f 2x",
    "2 6x 3 ed 1 1 1 6z 2 2f 2 4 2 bi 3 19 1 hx 2 22 2 10r 5 dtl 2 3p 1 1t 3 a 1 fd 2 87 2 feu",
    "1 5wn 4"]⟩,
  ⟨["unifiedideograph", "uideo"], [], [
    "a9s 534 1s g74 hse 2 1 1 1 2 a 1 1 1 1 2 2 3 1fpy wyo w 37e 6 66 2 4g2 e 5rl f ha 3he 3t7",
    "5 38g"]⟩,
  ⟨["uppercase", "upper"], ["Lu"], ["6lc g na q 2ixs q 6 q 6 q"]⟩,
  ⟨["variationselector", "vs"], [], ["4qz 3 1 1 19f4 g i9yo 6o"]⟩,
  ⟨["whitespace", "wspace", "space"], ["Z"], ["9 5 3b 1"]⟩,
  ⟨["xidcontinue", "xidc"], ["L", "Mc", "Mn", "Nd", "Nl", "Pc"], [
    "53 1 jm 1 c 1 34x 9 19k 1 181 2 7e 1 l 1 2kg 1 jv 1 146a 6 ba 2 38 1 1 1 1 1 1 1 1 1 1 1 1",
    "1 1 1 6e 1"]⟩,
  ⟨["xidstart", "xids"], ["L", "Nl"], [
    "oq 1 248 1 3j 1 1xt 2 1ox 1 l 1 2kg 1 14q6 6 ba 2 38 1 1 1 1 1 1 1 1 1 1 1 1 1 1 1 7z 2"]⟩]

end Property
end FieldRules.Text
