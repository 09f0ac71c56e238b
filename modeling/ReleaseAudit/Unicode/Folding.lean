import ReleaseAudit.Unicode.Runs

/-! Characters that differ in case only. -/
namespace ReleaseAudit
namespace Unicode

/-- Runs of pairs that differ in case only: the first character of the first pair, the distance to
the second, the number of pairs and the distance to the next pair. -/
def foldingText : String :=
  "65 32 26 1 75 8415 1 1 83 300 1 1 181 743 1 1 181 775 1 1 192 32 23 1 197 8294 1 1 216
  32 7 1 223 7615 1 1 255 121 1 1 256 1 24 2 306 1 3 2 313 1 8 2 330 1 23 2 377 1 3 2
  384 195 1 1 385 210 1 1 386 1 2 2 390 206 1 1 391 1 1 1 393 205 2 1 395 1 1 1 398 79 1
  1 399 202 1 1 400 203 1 1 401 1 1 1 403 205 1 1 404 207 1 1 405 97 1 1 406 211 1 1 407
  209 1 1 408 1 1 1 410 163 1 1 411 42561 1 1 412 211 1 1 413 213 1 1 414 130 1 1 415
  214 1 1 416 1 3 2 422 218 1 1 423 1 1 1 425 218 1 1 428 1 1 1 430 218 1 1 431 1 1 1
  433 217 2 1 435 1 2 2 439 219 1 1 440 1 1 1 444 1 1 1 447 56 1 1 452 1 1 1 452 2 1 1
  455 1 1 1 455 2 1 1 458 1 1 1 458 2 1 1 461 1 8 2 478 1 9 2 497 1 1 1 497 2 1 1 500 1
  1 1 504 1 20 2 546 1 9 2 570 10795 1 1 571 1 1 1 574 10792 1 1 575 10815 2 1 577 1 1 1
  580 69 1 1 581 71 1 1 582 1 5 2 592 10783 1 1 593 10780 1 1 594 10782 1 1 604 42319 1
  1 609 42315 1 1 612 42343 1 1 613 42280 1 1 614 42308 1 1 618 42308 1 1 619 10743 1 1
  620 42305 1 1 625 10749 1 1 637 10727 1 1 642 42307 1 1 647 42282 1 1 669 42261 1 1
  670 42258 1 1 837 84 1 1 837 116 1 1 837 7289 1 1 880 1 2 2 886 1 1 1 891 130 3 1 895
  116 1 1 902 38 1 1 904 37 3 1 908 64 1 1 910 63 2 1 912 7235 1 1 913 32 8 1 914 62 1 1
  917 96 1 1 920 57 1 1 920 92 1 1 922 32 2 1 922 86 1 1 925 32 5 1 928 54 1 1 929 80 1
  1 931 31 1 1 931 32 9 1 934 47 1 1 937 7549 1 1 944 7219 1 1 975 8 1 1 984 1 12 2 1010
  7 1 1 1015 1 1 1 1018 1 1 1 1024 80 16 1 1040 32 32 1 1042 6254 1 1 1044 6253 1 1 1054
  6244 1 1 1057 6242 2 1 1058 6243 1 1 1066 6236 1 1 1120 1 17 2 1122 6181 1 1 1162 1 27
  2 1216 15 1 1 1217 1 7 2 1232 1 48 2 1329 48 38 1 4256 7264 38 1 4295 7264 1 1 4301
  7264 1 1 4304 3008 43 1 4349 3008 3 1 5024 38864 80 1 5104 8 6 1 7304 35266 1 1 7304
  35267 1 1 7305 1 1 1 7545 35332 1 1 7549 3814 1 1 7566 35384 1 1 7680 1 75 2 7776 59 1
  1 7840 1 48 2 7936 8 8 1 7952 8 6 1 7968 8 8 1 7984 8 8 1 8000 8 6 1 8017 8 4 2 8032 8
  8 1 8048 74 2 1 8050 86 4 1 8054 100 2 1 8056 128 2 1 8058 112 2 1 8060 126 2 1 8064 8
  8 1 8080 8 8 1 8096 8 8 1 8112 8 2 1 8115 9 1 1 8131 9 1 1 8144 8 2 1 8160 8 2 1 8165
  7 1 1 8179 9 1 1 8498 28 1 1 8544 16 16 1 8579 1 1 1 9398 26 26 1 11264 48 48 1 11360
  1 1 1 11367 1 3 2 11378 1 1 1 11381 1 1 1 11392 1 50 2 11499 1 2 2 11506 1 1 1 42560 1
  5 2 42572 1 17 2 42624 1 14 2 42786 1 7 2 42802 1 31 2 42873 1 2 2 42878 1 5 2 42891 1
  1 1 42896 1 2 2 42900 48 1 1 42902 1 10 2 42931 928 1 1 42932 1 8 2 42951 1 2 2 42956
  1 8 2 42997 1 1 1 64261 1 1 1 65313 32 26 1 66560 40 40 1 66736 40 36 1 66928 39 11 1
  66940 39 15 1 66956 39 7 1 66964 39 2 1 68736 64 51 1 68944 32 22 1 71840 32 32 1
  93760 32 32 1 93856 27 25 1 125184 34 34 1"

def pairsOf : List Nat → List (Nat × Nat)
  | first :: distance :: count :: step :: rest =>
    (List.range count).map (fun i => (first + i * step, first + i * step + distance)) ++ pairsOf rest
  | _ => []

/-- The pairs of characters that differ in case only. The first of a pair is the first of all that
differ from it in case only. -/
def foldingPairs : List (Nat × Nat) := pairsOf (numbersOf foldingText)

def foldedCode (n : Nat) : Nat := ((foldingPairs.find? fun p => p.2 = n).map (·.1)).getD n

/-- A set with the characters that differ from one of its own in case only. -/
def withOtherCases (s : CharSet) : CharSet :=
  let firsts := (foldingPairs.filter fun p => CharSet.inRuns s.runs p.2).map fun p => (p.1, p.1)
  let s := s.union (CharSet.ofRuns firsts)
  let others := (foldingPairs.filter fun p => CharSet.inRuns s.runs p.1).map fun p => (p.2, p.2)
  s.union (CharSet.ofRuns others)

def sameUpToCase (a b : Char) : Bool := a == b || foldedCode a.toNat == foldedCode b.toNat

end Unicode
end ReleaseAudit
