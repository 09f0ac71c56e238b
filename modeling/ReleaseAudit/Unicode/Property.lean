import ReleaseAudit.Text.Blank
import ReleaseAudit.Unicode.Age
import ReleaseAudit.Unicode.Break
import ReleaseAudit.Unicode.Category
import ReleaseAudit.Unicode.Extension

/-! Properties that a character has or has not, and the names of sets of characters. -/
namespace ReleaseAudit
namespace Unicode

open Category

def lettersAndNumerals : List Category := [lu, ll, lt, lm, lo, nl]

def decimalDigits : CharSet := ofCategories [nd]

def otherUppercase : CharSet := setOf
  "8544 16 838 26 117856 26 6 26 6 26"

def uppercase : CharSet := (ofCategories [lu]).union otherUppercase

def otherLowercase : CharSet := setOf
  "170 1 15 1 501 9 7 2 30 5 96 1 52 1 3457 1 3119 63 13 1 34 37 689 1 13 1 16 13 211 16
  848 26 1938 2 31262 2 210 1 128 4 3 2 866 4 9 1 23574 1 2 3 1 42 1 9 55413 62"

def lowercase : CharSet := (ofCategories [ll]).union otherLowercase

def otherAlphabetic : CharSet := setOf
  "837 1 29 13 576 14 1 1 1 2 1 2 1 1 72 11 48 13 1 7 16 1 101 7 4 4 2 2 4 1 35 1 30 16 102
  11 101 2 3 9 1 3 1 4 106 1 60 12 3 7 6 20 54 2 2 15 1 2 5 3 10 2 29 3 58 7 2 2 2 2 10 1
  10 2 29 3 58 5 4 2 2 2 4 1 30 2 3 1 11 3 58 8 1 3 1 2 21 2 22 3 4 3 58 7 2 2 2 2 9 2 10
  2 30 1 59 5 3 3 1 3 10 1 40 5 57 7 1 3 1 3 8 2 11 2 29 3 58 7 1 3 1 3 8 2 11 2 15 1 12 4
  58 7 1 3 1 3 10 1 10 2 29 3 75 6 1 1 1 8 18 2 61 1 2 7 18 1 99 1 2 6 1 2 16 1 163 19 9
  11 1 36 110 12 1 1 2 4 23 4 4 3 1 3 2 7 3 4 13 12 1 1 10 4 1652 2 30 2 30 2 30 2 66 19
  188 2 34 1 118 12 4 9 222 5 57 10 2 20 74 2 11 3 49 5 48 15 60 3 30 9 2 2 57 11 50 19
  412 34 1729 52 2294 32 30836 8 34 2 354 1 8 1 23 5 88 2 50 16 1 1 57 1 38 5 28 12 45 4
  48 12 37 1 67 14 12 1 8 2 45 3 50 1 1 3 2 2 5 1 44 5 5 1 237 8 20275 1 2135 5 1670 3 1 2
  5 4 788 4 65 1 321 2 77 3 259 3 53 14 45 2 11 3 45 9 9 1 61 3 36 12 18 2 57 3 48 13 14 2
  92 9 2 1 6 1 2 1 157 10 23 4 58 7 2 2 2 2 10 1 10 2 84 9 1 1 2 1 1 4 1 2 103 13 1 3 106
  18 237 7 2 7 29 2 82 15 1 1 106 11 103 14 257 13 247 6 1 2 2 2 3 1 1 1 142 7 2 6 4 1 28
  10 42 5 1 4 18 11 46 14 200 8 199 8 1 7 83 22 1 14 122 6 3 1 1 2 1 3 1 1 3 1 66 5 1 2 1
  4 348 4 9 2 1 1 48 7 3 3 16861 17 3616 1 1 55 7 4 93 2 19628 1 9057 7 1 17 2 7 1 2 1 5
  100 1 1619 1 2 1 7 2 5 1 593 1 2024 26 6 26 6 26"

def alphabetic : CharSet := (ofCategories lettersAndNumerals).union otherAlphabetic

/-- The characters of words: letters, marks, digits, connecting punctuation and the two joiners. -/
def wordCharacters : CharSet :=
  (alphabetic.union (ofCategories [mn, mc, me, nd, pc])).union (setOf "8204 2")

def otherGraphemeExtend : CharSet := setOf
  "2494 1 24 1 358 1 24 1 102 1 24 1 232 1 1 1 4 2 1 2 9 2 103 1 24 1 119 1 15 1 2357 1 30
  1 1024 1 5 1 1 1 5 2 101 1 71 2 1048 1 4129 2 31011 1 108 1 21981 2 4640 1 116 1 264 1
  14 1 9 1 96 1 9 1 2 1 1 3 5 1 224 1 12 1 241 1 262 1 633 1 12 1 1539 1 20654 2 24947 2 6
  6 798381 96"

def graphemeExtend : CharSet := (ofCategories [mn, me]).union otherGraphemeExtend

def graphemeBase : CharSet :=
  ((ofCategories [cc, cf, cs, co, cn, zl, zp]).union graphemeExtend).complement

def caseIgnorable : CharSet :=
  (ofCategories [mn, me, cf, lm, sk]).union (setOf
    "39 1 6 1 11 1 124 1 719 1 471 1 148 1 6691 2 10 1 2 1 56811 1 62 1 2 1 177 1 6 1 11 1")

def changesWhenLowercased : CharSet := uppercase.symmetricDiff (setOf
  "453 1 2 1 2 1 38 1 479 3 7091 8 8 8 8 8 12 1 15 1 47 1 261 1 4 1 3 3 2 3 2 1 3 5 6 1 3
  1 3 2 2 2 1 1 10 2 5 1 111290 26 26 26 26 26 26 1 1 2 2 1 2 2 2 4 1 8 26 26 26 2 1 4 2
  8 1 7 27 2 1 4 1 5 1 1 3 7 27 26 26 26 26 26 26 26 26 26 26 26 30 25 33 25 33 25 33 25
  33 25 33 1 6501 26 6 26 6 26")

def changesWhenUppercased : CharSet := lowercase.symmetricDiff (setOf
  "170 1 15 1 125 1 84 1 28 2 14 1 3 1 6 1 2 1 2 1 38 1 46 1 18 6 27 1 2 1 1 1 2 3 2 1 4
  1 5 2 1 1 2 2 1 7 1 2 1 1 2 3 6 5 1 1 2 7 2 26 7 2 30 5 149 1 129 1 355 1 39 1 2931 1
  3075 121 1 3 1 16 1 49 220 2 1 1 232 8 8 8 8 8 12 1 15 1 47 1 116 1 13 1 16 13 109 1 3
  2 3 1 27 1 4 1 4 1 2 2 8 4 2855 1 2 1 2 7 102 1 31159 2 146 2 62 9 21 1 6 1 25 1 65 4
  3 3 821 35 1 7 1 14 23574 1 2 3 1 42 1 9 52319 26 26 7 1 18 26 26 26 4 1 1 1 7 1 11 26
  26 26 26 26 26 26 26 26 26 26 26 26 26 26 26 26 28 28 25 1 6 26 25 1 6 26 25 1 6 26 25
  1 6 26 25 1 6 1 1 1844 10 1 20 6 6 261 62")

def changesWhenTitlecased : CharSet := changesWhenUppercased.symmetricDiff (setOf
  "452 2 1 2 1 2 37 2 3805 43 2 3 3720 8 8 8 8 8 12 1 15 1 47 1")

def changesWhenCasefolded : CharSet := changesWhenLowercased.symmetricDiff (setOf
  "181 1 41 1 105 1 53 1 453 1 124 1 13 2 3 2 25 2 3 1 401 1 3608 86 2 6 2178 9 529 2 228
  8 8 8 8 8 10 3 2 1 10 3 2 1 42 3 2 1 35704 80 20288 7 12 5")

def otherMath : CharSet := setOf
  "94 1 881 3 2 1 26 2 2 2 7200 1 27 3 11 1 32 4 24 2 14 2 65 13 4 1 3 2 4 5 18 1 4 1 2 10
  1 1 3 5 6 1 3 2 2 2 1 3 1 6 3 4 5 5 75 5 2 4 1 2 1 2 1 1 1 5 2 2 4 2 4 18 2 2 1 1 1 7 1
  1 6 2 290 4 168 2 1 1 24 1 17 1 445 2 12 9 5 5 5 2 2 2 3 5 14 1 1 1 2 6 24 2 57 1 1 1 29
  4 9 2 342 2 31 10 403 22 63 4 32 2 54371 1 1 1 4 1 211 1 1 1 54465 85 1 71 1 2 2 1 2 2 2
  4 1 12 1 1 1 7 1 65 1 4 2 8 1 7 1 28 1 4 1 5 1 1 3 7 1 340 2 25 1 25 1 31 1 25 1 31 1 25
  1 31 1 25 1 31 1 25 1 8 2 50 5632 4 1 27 1 2 1 1 2 1 1 10 1 4 1 1 1 1 6 1 4 1 1 1 1 1 1
  3 1 2 1 1 2 1 1 1 1 1 1 1 1 1 1 2 1 1 2 4 1 7 1 4 1 4 1 1 1 10 1 17 5 3 1 5 1 17"

def math : CharSet := (ofCategories [sm]).union otherMath

def whiteSpace : CharSet := ⟨Text.blankRuns⟩

/-- A set with the characters that names may hold although their category does not say so, and
without those that names may not hold. -/
def withIdentifierParts (s : CharSet) : CharSet :=
  (s.union (setOf "6277 2 2193 1 21 1 3948 2")).diff (setOf "11823 1")

def identifierStart : CharSet := withIdentifierParts (ofCategories lettersAndNumerals)

def identifierPart : CharSet :=
  withIdentifierParts ((ofCategories (lettersAndNumerals ++ [mn, mc, nd, pc])).union
    (setOf "183 1 719 1 4065 9 1640 1 1585 2 266 1 21 1 3948 2 94 1 52841 1"))

def propertyTexts : List (List String × String) :=
  [(["whitespace", "space", "wspace"],
      "9 5 18 1 100 1 26 1 5599 1 2431 11 29 2 5 1 47 1 4000 1"),
    (["emoji"],
      "35 1 6 1 5 10 111 1 4 1 8077 1 12 1 216 1 22 1 90 6 15 2 367 2 12 1 166 1 25 11 4
      3 199 1 231 2 10 1 9 1 58 4 1 5 9 1 2 1 2 2 2 1 4 1 2 1 1 2 2 1 3 1 3 2 8 3 5 1 1
      1 5 12 11 2 2 1 1 2 1 1 18 1 2 2 18 6 1 1 1 2 3 2 5 1 2 2 4 2 11 2 5 2 2 1 5 2 1 1
      1 2 20 2 5 6 1 4 2 1 4 1 2 1 2 6 1 1 2 1 1 1 1 1 6 1 3 1 6 1 10 2 15 1 2 1 4 1 1 1
      4 3 1 1 11 2 48 3 9 1 14 1 14 1 372 2 463 3 19 2 51 1 4 1 1242 1 12 1 601 1 1 1
      114026 1 202 1 160 2 12 2 14 1 2 10 75 26 1 2 23 1 20 1 2 9 21 2 174 34 2 112 2 2
      1 3 2 83 2 3 1 263 1 63 11 6 1 24 7 2 2 8 12 1 2 4 2 1 4 2 13 2 2 1 8 2 9 1 5 3 12
      3 8 3 2 1 1 1 4 1 6 1 3 1 6 86 48 70 5 8 2 4 3 10 3 1 1 2 3 1 2 10 227 12 4 1 283
      47 1 10 1 185 112 13 3 11 3 57 1 1 4 16 2 12 4 10"),
    (["emojipresentation", "epres"],
      "8986 2 205 4 3 1 2 1 521 2 21 2 50 12 43 1 19 1 13 1 8 2 17 2 5 2 8 1 5 1 21 1 7 2
      1 1 4 1 2 1 7 1 4 2 28 1 35 1 1 1 4 3 1 1 61 3 24 1 14 1 859 2 51 1 4 1 115886 1
      202 1 190 1 2 10 75 26 1 1 24 1 20 1 2 5 1 3 21 2 174 33 12 9 1 70 1 22 12 43 4 5
      12 17 3 1 3 71 1 1 1 187 2 63 13 4 1 24 18 1 26 2 13 1 86 85 48 70 6 1 3 3 2 4 3 4
      11 2 7 9 227 12 4 1 283 47 1 10 1 185 112 13 3 11 3 57 1 1 4 16 2 12 4 10"),
    (["emojimodifier", "emod"],
      "127995 5"),
    (["emojimodifierbase", "ebase"],
      "9757 1 219 1 16 4 117879 1 60 3 2 1 2 3 117 2 2 11 21 19 3 1 4 3 1 3 7 1 1 1 24 1
      201 2 4 1 21 1 4 2 174 3 3 5 83 1 16 3 9 1 11 1 575 1 2 1 8 8 6 1 9 10 2 3 56 1 61
      2 1 2 1 1 17 3 1 13 229 3 42 9"),
    (["emojicomponent", "ecomp"],
      "35 1 6 1 5 10 8147 1 213 1 56619 1 62422 26 507 5 1456 4 788076 96"),
    (["extendedpictographic", "extpict"],
      "169 1 4 1 8077 1 12 1 216 1 22 1 90 6 15 2 367 2 12 1 166 1 25 11 4 3 199 1 231 2
      10 1 9 1 58 4 1 5 9 1 2 1 2 2 2 1 4 1 2 1 1 2 2 1 3 1 3 2 8 3 5 1 1 1 5 12 11 2 2
      1 1 2 1 1 18 1 2 2 18 6 1 1 1 2 3 2 5 1 2 2 4 2 11 2 5 2 2 1 5 2 1 1 1 2 20 2 5 6
      1 4 2 1 4 1 2 1 2 6 1 1 2 1 1 1 1 1 6 1 3 1 6 1 10 2 15 1 2 1 4 1 1 1 4 3 1 1 11 2
      48 3 9 1 14 1 14 1 372 2 463 3 19 2 51 1 4 1 1242 1 12 1 601 1 1 1 114026 1 39 4
      100 12 15 2 15 1 14 2 37 10 112 2 12 2 14 1 2 10 19 56 27 15 10 1 20 1 2 9 1 4 9
      23 6 188 2 112 2 2 1 3 2 83 2 3 1 4 5 254 1 63 11 6 1 24 7 2 2 8 12 1 2 4 2 1 4 2
      13 2 2 1 8 2 9 1 5 3 12 3 8 3 2 1 1 1 4 1 6 1 3 1 6 86 48 70 5 8 2 17 3 1 1 6 2 13
      218 38 12 4 56 8 10 6 40 8 30 2 12 4 2 14 9 39 12 47 1 10 1 185 88 8 14 146 256
      1022"),
    (["ideographic", "ideo"],
      "12294 2 25 9 14 3 965 6592 64 20992 22784 366 2 106 29962 1 13 5 9 7382 41 32 97
      115 9085 396 19716 42720 32 4382 2 5774 2 7473 15 622 2466 542 1506 4939 5 8490"),
    (["hexdigit", "hex"],
      "48 10 7 6 26 6 65193 10 7 6 26 6"),
    (["asciihexdigit", "ahex"],
      "48 10 7 6 26 6"),
    (["dash"],
      "45 1 1372 1 51 1 3649 1 1029 1 2057 6 61 1 39 1 15 1 390 1 3076 1 2 1 31 2 4 1 28
      1 446 1 19 1 111 1 52624 2 37 1 10 1 169 1 3680 1 318 1"),
    (["diacritic", "dia"],
      "94 1 1 1 71 1 6 1 4 1 2 2 503 159 1 8 5 6 17 2 4 1 9 2 253 5 209 1 55 45 1 1 1 2 1
      2 1 1 131 8 4 2 134 2 4 2 3 3 67 27 91 11 58 11 34 2 126 8 41 10 16 28 61 1 16 1 3
      4 28 1 74 1 16 1 110 1 16 1 110 1 16 1 47 3 60 1 16 1 7 1 119 1 110 1 16 1 110 1
      16 1 109 2 16 1 124 1 111 1 12 6 1 1 107 1 13 5 75 2 27 1 1 1 1 1 4 2 66 3 1 2 62
      1 112 1 1 2 40 2 4 5 25 7 1 1 10 2 705 3 948 2 30 1 148 11 9 1 347 3 292 1 20 8 2
      1 48 15 2 11 3 15 2 12 72 1 15 1 38 9 54 2 58 1 11 2 66 2 64 6 82 25 4 1 6 1 2 3
      50 63 48 36 5 12 37 11 445 1 1 3 11 3 13 3 13 3 13 2 3312 3 317 1 506 6 105 4 95 1
      30066 1 12 2 1 1 28 2 82 2 14 34 102 3 102 1 6 2 12 1 37 1 151 1 27 18 57 4 36 1
      95 1 12 1 36 1 149 3 65 4 51 1 100 5 9 3 128 2 20272 1 769 16 270 1 1 1 47 1 45 2
      67 1 764 1 1183 6 1 42 1 9 637 3 4 1 165 2 571 6 38 1 26 5 396 1 2 3 70 11 49 4
      192 1 41 1 72 2 120 2 62 1 76 1 9 3 104 2 178 2 80 2 16 1 24 7 3 5 89 3 1 2 13 2
      95 1 3 1 123 2 251 2 126 1 118 2 115 1 269 2 258 2 4 1 156 1 83 1 18 1 81 1 421 1
      258 1 1 2 81 1 65 1 359 2 23 1 5356 15 11481 1 2496 5 59 7 564 2 546 17 80 2 16382
      4 1 7 1 2 7937 46 2 23 544 3 3 6 8 8 2 7 30 4 3714 62 194 7 375 1 61 4 766 2 736 7
      109 3 1 3"),
    (["extender", "ext"],
      "183 1 536 2 878 1 441 1 630 1 137 1 89 1 752 1 127 1 2371 1 56 1 611 1 398 1 68 1
      5001 1 43 5 103 2 93 3 28438 1 1526 1 962 1 22 1 137 1 108 1 21 2 21627 1 2064 2
      1483 1 27 1 4 1 1223 1 293 1 116 2 498 3 1231 1 832 1 19816 2 1180 2 1 1 14 2
      29000 2 1201 1 852 3"),
    (["joincontrol", "joinc"],
      "8204 2"),
    (["defaultignorablecodepoint", "di"],
      "173 1 673 1 716 1 2882 2 1619 2 85 5 2043 5 26 5 49 16 4340 1 52379 16 239 1 160 1
      79 9 48295 4 5327 8 798341 4096"),
    (["noncharactercodepoint", "nchar"],
      "64976 32 526 2 65534 2 65534 2 65534 2 65534 2 65534 2 65534 2 65534 2 65534 2
      65534 2 65534 2 65534 2 65534 2 65534 2 65534 2 65534 2 65534 2"),
    (["patternwhitespace", "patws"],
      "9 5 18 1 100 1 8072 2 24 2"),
    (["patternsyntax", "patsyn"],
      "33 15 10 7 26 4 1 1 26 4 34 7 1 1 1 2 1 1 1 2 4 1 4 1 3 1 23 1 31 1 7960 24 8 15 2
      19 1 10 305 720 160 630 30 1132 512 128 385 3 4 25 15 1 52493 2 261 2"),
    (["quotationmark", "qmark"],
      "34 1 4 1 131 1 15 1 8028 8 25 2 3591 1 457 4 13 3 52769 4 189 1 4 1 90 2"),
    (["radical"],
      "11904 26 1 89 12 214"),
    (["regionalindicator", "ri"],
      "127462 26"),
    (["sentenceterminal", "sterm"],
      "33 1 12 1 16 1 1353 1 147 3 180 1 43 3 246 1 61 1 1 1 3 2 293 2 1764 2 790 1 4 2
      773 1 198 2 157 2 45 1 5 1 314 2 354 4 162 2 10 2 2 2 29 3 187 2 65 2 932 1 23 2 9
      3 3247 3 306 1 13 1 22 2 429 1 29948 1 270 2 227 1 3 1 382 2 86 2 95 1 152 2 147 3
      144 2 249 1 21030 1 2 2 59 1 3 2 169 1 12 1 16 1 65 1 2804 2 1277 5 44 4 189 2 117
      4 127 3 129 2 6 1 16 2 88 2 1 2 108 1 298 2 117 2 373 2 5 15 105 2 249 3 517 1 1 1
      251 2 87 2 420 2 692 2 74 2 19241 2 133 1 65 2 11 1 553 2 296 1 19974 1 7656 1"),
    (["softdotted", "sd"],
      "105 2 196 1 281 1 30 1 52 1 20 1 320 1 98 1 1 1 6409 1 51 1 13 1 3 1 132 1 157 1
      421 1 214 2 2866 1 108453 2 50 2 50 2 50 2 50 2 50 2 50 2 50 2 50 2 50 2 50 2 50 2
      50 2 2182 1 305 2 26 1"),
    (["terminalpunctuation", "term"],
      "33 1 10 1 1 1 11 2 3 1 830 1 8 1 513 1 57 1 72 1 14 1 1 3 180 1 43 11 1 1 235 2 54
      6 1 8 31 1 261 2 1268 2 172 1 4 6 311 2 789 8 773 1 124 3 71 2 157 3 3 1 39 4 2 2
      314 2 354 4 162 2 10 2 1 3 29 3 187 5 62 2 932 1 23 2 9 3 3247 3 306 1 13 1 4 1 10
      1 1 2 3 2 428 2 29947 2 269 3 227 5 382 2 86 2 95 1 151 3 147 3 127 1 16 2 249 1
      21030 1 2 2 57 3 1 4 169 1 10 1 1 1 11 2 3 1 65 1 2 1 1082 1 48 1 1158 1 199 1 310
      2 152 6 68 6 89 4 952 5 44 4 189 7 112 4 127 3 129 2 6 1 16 2 88 5 108 1 298 2 117
      3 12 2 358 4 3 15 105 2 249 3 517 1 1 1 251 2 87 2 4 2 414 3 45 1 645 2 74 2 1323
      5 17913 2 133 1 65 3 10 1 553 2 295 2 19974 1 7655 4"),
    (["unifiedideograph", "uideo"],
      "13312 6592 64 20992 23054 2 1 1 1 2 10 1 1 1 1 2 2 3 67030 42720 32 4382 2 5774 2
      7473 15 622 4514 4939 5 8490"),
    (["variationselector", "vs"],
      "6155 3 1 1 58864 16 852720 240"),
    (["bidicontrol", "bidic"],
      "1564 1 6641 2 26 5 55 4"),
    (["idsbinaryoperator", "idsb"],
      "12272 2 2 10 497 1"),
    (["idstrinaryoperator", "idst"],
      "12274 2"),
    (["logicalorderexception", "loe"],
      "3648 5 123 5 2800 3 2 1 37114 2 2 1 1 2"),
    (["deprecated", "dep"],
      "329 1 1321 1 2307 1 1 1 2089 2 2245 6 697 2 908502 1"),
    (["idsunaryoperator", "idsu"],
      "12286 2"),
    (["idcompatmathstart"],
      "8706 1 4 1 22 1 111778 1 25 1 31 1 25 1 31 1 25 1 31 1 25 1 31 1 25 1"),
    (["idcompatmathcontinue"],
      "178 2 5 1 8118 1 3 11 1 15 371 1 4 1 22 1 111778 1 25 1 31 1 25 1 31 1 25 1 31 1 25
      1 31 1 25 1"),
    (["modifiercombiningmark", "mcm"],
      "1620 2 2 1 131 1 6 1 3 2 481 2 1 3 3 1 31 1"),
    (["prependedconcatenationmark", "pcm"],
      "1536 6 215 1 49 1 384 2 80 1 67546 1 15 1"),
    (["hyphen"],
      "45 1 127 1 1244 1 4731 1 2057 2 3589 1 739 1 52583 1 169 1 87 1"),
    (["graphemelink", "grlink"],
      "2381 1 127 1 127 1 127 1 127 1 127 1 127 1 127 1 109 2 16 1 124 1 111 1 127 1 201 1
      180 2 1753 2 30 1 157 1 653 1 227 1 101 2 70 2 4491 1 31366 1 37 1 151 1 142 1 108 1
      309 1 246 1 24145 1 1542 1 41 1 14 1 57 1 121 2 139 1 116 1 180 1 98 1 128 3 113 1
      127 1 252 1 127 1 118 1 116 1 269 1 259 2 161 1 83 1 18 1 81 1 421 1 260 2 81 1 425
      2 16876 1"),
    (["otheridstart", "oids"],
      "6277 2 2193 1 21 1 3948 2"),
    (["otheridcontinue", "oidc"],
      "183 1 719 1 4065 9 1640 1 1585 2 4333 1 52841 1"),
    (["otherdefaultignorablecodepoint", "odi"],
      "847 1 3599 2 1619 2 2223 1 4350 1 52795 1 79 9 851975 1 1 30 96 128 240 3600")]

def derivedProperties : List (List String × (Unit → CharSet)) :=
  [(["alphabetic", "alpha"], fun _ => alphabetic), (["uppercase", "upper"], fun _ => uppercase),
    (["lowercase", "lower"], fun _ => lowercase),
    (["cased"], fun _ => (uppercase.union lowercase).union (ofCategories [lt])),
    (["caseignorable", "ci"], fun _ => caseIgnorable),
    (["changeswhenlowercased", "cwl"], fun _ => changesWhenLowercased),
    (["changeswhenuppercased", "cwu"], fun _ => changesWhenUppercased),
    (["changeswhentitlecased", "cwt"], fun _ => changesWhenTitlecased),
    (["changeswhencasefolded", "cwcf"], fun _ => changesWhenCasefolded),
    (["changeswhencasemapped", "cwcm"], fun _ =>
      (changesWhenLowercased.union changesWhenUppercased).union changesWhenTitlecased),
    (["math"], fun _ => math), (["graphemebase", "grbase"], fun _ => graphemeBase),
    (["graphemeextend", "grext"], fun _ => graphemeExtend),
    (["idstart", "ids"], fun _ => identifierStart), (["idcontinue", "idc"], fun _ => identifierPart),
    (["xidstart", "xids"], fun _ => identifierStart.diff
      (setOf "890 1 2744 1 127 1 8679 2 52161 6 406 2 116 1 1 1 1 1 1 1 1 1 1 1 1 1 1 1 287 2")),
    (["xidcontinue", "xidc"], fun _ => identifierPart.diff
      (setOf "890 1 11552 2 52161 6 406 2 116 1 1 1 1 1 1 1 1 1 1 1 1 1 1 1")),
    (["otheralphabetic", "oalpha"], fun _ => otherAlphabetic),
    (["otheruppercase", "oupper"], fun _ => otherUppercase),
    (["otherlowercase", "olower"], fun _ => otherLowercase),
    (["othermath", "omath"], fun _ => otherMath),
    (["othergraphemeextend", "ogrext"], fun _ => otherGraphemeExtend)]

def property? (name : String) : Option CharSet :=
  match derivedProperties.find? fun p => p.1.contains name with
  | some p => some (p.2 ())
  | none => (propertyTexts.find? fun p => p.1.contains name).map fun p => setOf p.2

def categoryGroups : List (List String × List Category) :=
  [(["l", "letter"], [lu, ll, lt, lm, lo]), (["lc", "casedletter"], [lu, ll, lt]),
    (["m", "mark", "combiningmark"], [mn, mc, me]), (["n", "number"], [nd, nl, no]),
    (["p", "punctuation", "punct"], [pc, pd, ps, pe, pi, pf, po]), (["s", "symbol"], [sm, sc, sk, so]),
    (["z", "separator"], [zs, zl, zp]), (["c", "other"], [cc, cf, cs, co, cn]),
    (["digit"], [nd]), (["cntrl"], [cc])]

/-- The characters of the category, or of the group of categories, with this name. -/
def category? (name : String) : Option CharSet :=
  if name = "any" then some .all
  else if name = "ascii" then some .ascii
  else if name = "assigned" then some (ofCategories [cn]).complement
  else match categoryGroups.find? fun g => g.1.contains name with
    | some g => some (ofCategories g.2)
    | none =>
      (named.find? fun c => c.2.1 = name || c.2.2 = name).map fun c => ofCategories [c.1]

/-- A name in small letters, without blanks, dashes, underscores and an `is` before it. -/
def normalizedName (name : List Char) : String :=
  let lower := name.map Char.toLower
  let hasIs := lower.take 2 = ['i', 's']
  let plain := (if hasIs then lower.drop 2 else lower).filter fun c =>
    c ≠ ' ' && c ≠ '-' && c ≠ '_' && c.toNat < 0x80
  String.ofList (if hasIs && plain = ['c'] then ['i', 's', 'c'] else plain)

def named? (name : List Char) : Option CharSet :=
  let name := normalizedName name
  let property := if ["cf", "sc", "lc"].contains name then none else property? name
  (property.orElse fun _ => category? name).orElse fun _ => script? name

def valued? (name value : List Char) : Option CharSet :=
  let name := normalizedName name
  let value := normalizedName value
  if ["generalcategory", "gc"].contains name then category? value
  else if ["script", "sc"].contains name then script? value
  else if ["scriptextensions", "scx"].contains name then extension? value
  else if name = "age" then since? value
  else if ["graphemeclusterbreak", "gcb"].contains name then listed? graphemeBreakTexts value
  else if ["wordbreak", "wb"].contains name then listed? wordBreakTexts value
  else if ["sentencebreak", "sb"].contains name then listed? sentenceBreakTexts value
  else none

end Unicode
end ReleaseAudit
