import ReleaseAudit.Unicode.Category

/-! What characters are to their neighbours: the direction in which they are written, and how they
are joined. -/
namespace ReleaseAudit
namespace Unicode

def rightToLeft : CharSet :=
  setOf "1470 1 1 1 2 1 2 1 9 37 19 1 2 1 1 1 13 48 34 3 1 101 15 2 7 2 10 23 1 30 29 89
    11 58 9 2 4 1 3 24 4 1 9 1 3 1 7 41 5 49 17 42 5957 1 56077 1 1 10 1 532 18 120 40
    13 115 141 2307 284 4 225 15 38 10 165 6 75 10 484 348 42 3 5 78 70 11 49 4 113
    55305 208 48 68 7 1393"

/-- The digits that are written from left to right among the former. -/
def arabicDigits : CharSet :=
  setOf "1536 6 90 10 1 2 112 1 434 2 80 1 66637 335"

def commonDigits : CharSet :=
  setOf "48 10 120 2 5 1 1590 10 6518 1 3 6 6 10 1022 20 55924 10 967 27 54482 50 6400 11
    2789 10"

def isOnTop (c : Char) : Bool := [.mn, .me].contains (categoryOf c)

def isLeftToRight (c : Char) : Bool :=
  !rightToLeft.contains c && !arabicDigits.contains c && !commonDigits.contains c &&
    [.lu, .ll, .lt, .lm, .lo, .mc, .nd, .nl].contains (categoryOf c)

/-- The signs that take the vowel from a letter. -/
def viramas : CharSet :=
  setOf "2381 1 127 1 127 1 127 1 127 1 127 1 127 1 127 1 109 2 16 1 124 1 111 1 127 1 201
    1 180 2 1753 2 30 1 157 1 653 1 227 1 101 2 70 2 4491 1 31366 1 37 1 151 1 142 1
    108 1 309 1 246 1 24145 1 1542 1 41 1 14 1 57 1 121 2 139 1 116 1 180 1 98 1 244 1
    127 1 252 1 127 1 118 1 116 1 269 1 259 2 161 1 83 1 18 1 81 1 421 1 260 2 81 1
    425 2"

def joinedOnBothSides : CharSet :=
  setOf "1568 1 5 1 1 1 1 5 4 13 1 7 1 2 35 2 8 16 18 38 1 2 9 1 1 1 1 2 40 3 2 1 18 3 5 4
    1 9 1 1 1 1 1 2 31 11 3 15 2 4 1 1 2 3 2 6 74 33 86 5 2 1 1 10 1 1 10 1 1 4 2 1 29
    1 2 5 18 10 5 2 2 6 1 15 3902 1 24 89 14 34 1 1 36757 50 25166 5 14 4 1 5 1 3 10 4
    145 1 1 1 3 3 1 2 1 1 2 1 28 2 338 33 1 1 524 3 1 17 12 3 28 4 2 12 46 1 1 2 4 1 2
    2 1 2 1 1 2 1 5 1 55605 68"

def joinedWithNext : CharSet :=
  setOf "43122 1 25178 1 9 1 552 1 714 1"

def joinedWithLast : CharSet :=
  setOf "1570 4 1 1 1 1 5 4 21 1 40 3 1 3 16 18 38 1 2 9 1 1 1 1 2 2 1 1 24 2 32 1 4 5 4 1
    9 1 1 1 1 1 2 1 29 1 11 3 15 2 4 1 1 2 3 2 198 1 5 2 1 1 10 1 1 3 14 1 1 26 11 1
    27 3 1 1 2 2 6 1 66059 1 1 1 1 2 3 5 10 1 3 1 2 1 10 1 145 1 1 3 3 1 2 1 1 2 1 1
    23 4 373 1 528 1 32 1 31 2 62 3 2 2 2 1 4 2 5 1"

/-- Whether letters are joined as if this character were not between them. -/
def isSkippedInJoining (c : Char) : Bool := [.mn, .me, .cf].contains (categoryOf c)

end Unicode
end ReleaseAudit
