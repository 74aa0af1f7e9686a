import FieldRules.Text.Shift

/-! Which characters differ in case alone.

Simple case folding puts characters into families. Most characters are alone in
theirs, most of the others form pairs (`pairRuns`), and a few families are
larger: `K`, `k` and the kelvin sign are one. -/
namespace FieldRules.Text

def largerFamilies : List (List Nat) := [
  [75, 107, 8490], [83, 115, 383], [181, 924, 956], [197, 229, 8491], [452, 453, 454],
  [455, 456, 457], [458, 459, 460], [497, 498, 499], [837, 921, 953, 8126], [914, 946, 976],
  [917, 949, 1013], [920, 952, 977, 1012], [922, 954, 1008], [928, 960, 982], [929, 961, 1009],
  [931, 962, 963], [934, 966, 981], [937, 969, 8486], [1042, 1074, 7296], [1044, 1076, 7297],
  [1054, 1086, 7298], [1057, 1089, 7299], [1058, 1090, 7300, 7301], [1066, 1098, 7302],
  [1122, 1123, 7303], [7304, 42570, 42571], [7776, 7777, 7835]]

def pairRuns : List Shift := [
  ⟨65, 10, 1, 97⟩, ⟨76, 8, 2, 108⟩, ⟨77, 3, 2, 109⟩, ⟨85, 3, 2, 117⟩, ⟨192, 16, 2, 224⟩,
  ⟨193, 2, 2, 225⟩, ⟨199, 8, 2, 231⟩, ⟨217, 3, 2, 249⟩, ⟨223, 1, 1, 7838⟩, ⟨255, 1, 1, 376⟩,
  ⟨256, 24, 2, 257⟩, ⟨306, 3, 2, 307⟩, ⟨313, 8, 2, 314⟩, ⟨330, 23, 2, 331⟩, ⟨377, 3, 2, 378⟩,
  ⟨384, 1, 1, 579⟩, ⟨385, 1, 1, 595⟩, ⟨386, 2, 2, 387⟩, ⟨390, 1, 1, 596⟩, ⟨391, 1, 1, 392⟩,
  ⟨393, 2, 1, 598⟩, ⟨395, 1, 1, 396⟩, ⟨398, 1, 1, 477⟩, ⟨399, 1, 1, 601⟩, ⟨400, 1, 1, 603⟩,
  ⟨401, 1, 1, 402⟩, ⟨403, 1, 1, 608⟩, ⟨404, 1, 1, 611⟩, ⟨405, 1, 1, 502⟩, ⟨406, 1, 1, 617⟩,
  ⟨407, 1, 1, 616⟩, ⟨408, 1, 1, 409⟩, ⟨410, 1, 1, 573⟩, ⟨411, 1, 1, 42972⟩, ⟨412, 1, 1, 623⟩,
  ⟨413, 1, 1, 626⟩, ⟨414, 1, 1, 544⟩, ⟨415, 1, 1, 629⟩, ⟨416, 3, 2, 417⟩, ⟨422, 1, 1, 640⟩,
  ⟨423, 1, 1, 424⟩, ⟨425, 1, 1, 643⟩, ⟨428, 1, 1, 429⟩, ⟨430, 1, 1, 648⟩, ⟨431, 1, 1, 432⟩,
  ⟨433, 2, 1, 650⟩, ⟨435, 2, 2, 436⟩, ⟨439, 1, 1, 658⟩, ⟨440, 1, 1, 441⟩, ⟨444, 1, 1, 445⟩,
  ⟨447, 1, 1, 503⟩, ⟨461, 8, 2, 462⟩, ⟨478, 9, 2, 479⟩, ⟨500, 1, 1, 501⟩, ⟨504, 20, 2, 505⟩,
  ⟨546, 9, 2, 547⟩, ⟨570, 1, 1, 11365⟩, ⟨571, 1, 1, 572⟩, ⟨574, 1, 1, 11366⟩, ⟨575, 2, 1, 11390⟩,
  ⟨577, 1, 1, 578⟩, ⟨580, 1, 1, 649⟩, ⟨581, 1, 1, 652⟩, ⟨582, 5, 2, 583⟩, ⟨592, 1, 1, 11375⟩,
  ⟨593, 1, 1, 11373⟩, ⟨594, 1, 1, 11376⟩, ⟨604, 1, 1, 42923⟩, ⟨609, 1, 1, 42924⟩,
  ⟨612, 1, 1, 42955⟩, ⟨613, 1, 1, 42893⟩, ⟨614, 1, 1, 42922⟩, ⟨618, 1, 1, 42926⟩,
  ⟨619, 1, 1, 11362⟩, ⟨620, 1, 1, 42925⟩, ⟨625, 1, 1, 11374⟩, ⟨637, 1, 1, 11364⟩,
  ⟨642, 1, 1, 42949⟩, ⟨647, 1, 1, 42929⟩, ⟨669, 1, 1, 42930⟩, ⟨670, 1, 1, 42928⟩, ⟨880, 2, 2, 881⟩,
  ⟨886, 1, 1, 887⟩, ⟨891, 3, 1, 1021⟩, ⟨895, 1, 1, 1011⟩, ⟨902, 1, 1, 940⟩, ⟨904, 3, 1, 941⟩,
  ⟨908, 1, 1, 972⟩, ⟨910, 2, 1, 973⟩, ⟨912, 1, 1, 8147⟩, ⟨913, 2, 2, 945⟩, ⟨916, 2, 2, 948⟩,
  ⟨919, 1, 1, 951⟩, ⟨923, 3, 2, 955⟩, ⟨926, 1, 1, 958⟩, ⟨932, 2, 1, 964⟩, ⟨935, 2, 1, 967⟩,
  ⟨938, 2, 1, 970⟩, ⟨944, 1, 1, 8163⟩, ⟨975, 1, 1, 983⟩, ⟨984, 12, 2, 985⟩, ⟨1010, 1, 1, 1017⟩,
  ⟨1015, 1, 1, 1016⟩, ⟨1018, 1, 1, 1019⟩, ⟨1024, 16, 1, 1104⟩, ⟨1040, 2, 1, 1072⟩,
  ⟨1043, 7, 2, 1075⟩, ⟨1046, 4, 2, 1078⟩, ⟨1056, 1, 1, 1088⟩, ⟨1059, 7, 1, 1091⟩,
  ⟨1067, 5, 1, 1099⟩, ⟨1120, 1, 1, 1121⟩, ⟨1124, 15, 2, 1125⟩, ⟨1162, 27, 2, 1163⟩,
  ⟨1216, 1, 1, 1231⟩, ⟨1217, 7, 2, 1218⟩, ⟨1232, 48, 2, 1233⟩, ⟨1329, 38, 1, 1377⟩,
  ⟨4256, 38, 1, 11520⟩, ⟨4295, 1, 1, 11559⟩, ⟨4301, 1, 1, 11565⟩, ⟨4304, 43, 1, 7312⟩,
  ⟨4349, 3, 1, 7357⟩, ⟨5024, 80, 1, 43888⟩, ⟨5104, 6, 1, 5112⟩, ⟨7305, 1, 1, 7306⟩,
  ⟨7545, 1, 1, 42877⟩, ⟨7549, 1, 1, 11363⟩, ⟨7566, 1, 1, 42950⟩, ⟨7680, 48, 2, 7681⟩,
  ⟨7778, 26, 2, 7779⟩, ⟨7840, 48, 2, 7841⟩, ⟨7936, 8, 1, 7944⟩, ⟨7952, 6, 1, 7960⟩,
  ⟨7968, 8, 1, 7976⟩, ⟨7984, 8, 1, 7992⟩, ⟨8000, 6, 1, 8008⟩, ⟨8017, 4, 2, 8025⟩,
  ⟨8032, 8, 1, 8040⟩, ⟨8048, 2, 1, 8122⟩, ⟨8050, 4, 1, 8136⟩, ⟨8054, 2, 1, 8154⟩,
  ⟨8056, 2, 1, 8184⟩, ⟨8058, 2, 1, 8170⟩, ⟨8060, 2, 1, 8186⟩, ⟨8064, 8, 1, 8072⟩,
  ⟨8080, 8, 1, 8088⟩, ⟨8096, 8, 1, 8104⟩, ⟨8112, 2, 1, 8120⟩, ⟨8115, 1, 1, 8124⟩,
  ⟨8131, 1, 1, 8140⟩, ⟨8144, 2, 1, 8152⟩, ⟨8160, 2, 1, 8168⟩, ⟨8165, 1, 1, 8172⟩,
  ⟨8179, 1, 1, 8188⟩, ⟨8498, 1, 1, 8526⟩, ⟨8544, 16, 1, 8560⟩, ⟨8579, 1, 1, 8580⟩,
  ⟨9398, 26, 1, 9424⟩, ⟨11264, 48, 1, 11312⟩, ⟨11360, 1, 1, 11361⟩, ⟨11367, 3, 2, 11368⟩,
  ⟨11378, 1, 1, 11379⟩, ⟨11381, 1, 1, 11382⟩, ⟨11392, 50, 2, 11393⟩, ⟨11499, 2, 2, 11500⟩,
  ⟨11506, 1, 1, 11507⟩, ⟨42560, 5, 2, 42561⟩, ⟨42572, 17, 2, 42573⟩, ⟨42624, 14, 2, 42625⟩,
  ⟨42786, 7, 2, 42787⟩, ⟨42802, 31, 2, 42803⟩, ⟨42873, 2, 2, 42874⟩, ⟨42878, 5, 2, 42879⟩,
  ⟨42891, 1, 1, 42892⟩, ⟨42896, 2, 2, 42897⟩, ⟨42900, 1, 1, 42948⟩, ⟨42902, 10, 2, 42903⟩,
  ⟨42931, 1, 1, 43859⟩, ⟨42932, 8, 2, 42933⟩, ⟨42951, 2, 2, 42952⟩, ⟨42956, 1, 1, 42957⟩,
  ⟨42960, 1, 1, 42961⟩, ⟨42966, 3, 2, 42967⟩, ⟨42997, 1, 1, 42998⟩, ⟨64261, 1, 1, 64262⟩,
  ⟨65313, 26, 1, 65345⟩, ⟨66560, 40, 1, 66600⟩, ⟨66736, 36, 1, 66776⟩, ⟨66928, 19, 2, 66967⟩,
  ⟨66929, 5, 2, 66968⟩, ⟨66941, 7, 2, 66980⟩, ⟨66957, 3, 2, 66996⟩, ⟨66965, 1, 1, 67004⟩,
  ⟨68736, 51, 1, 68800⟩, ⟨68944, 22, 1, 68976⟩, ⟨71840, 32, 1, 71872⟩, ⟨93760, 32, 1, 93792⟩,
  ⟨125184, 34, 1, 125218⟩]

/-- The families of more than one character. -/
def caseFamilies : List (List Nat) := largerFamilies ++ pairRuns.flatMap Shift.pairs

/-- The same among the ASCII letters only. -/
def asciiCaseFamilies : List (List Nat) := Shift.pairs ⟨65, 26, 1, 97⟩

end FieldRules.Text
