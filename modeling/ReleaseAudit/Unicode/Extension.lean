import ReleaseAudit.Unicode.Script

/-! The scripts that characters are used with, which may be several ones. -/
namespace ReleaseAudit
namespace Unicode

def extensionTexts : List (String × String) :=
  [("adlm",
      "1567 1 32 1 6670 1 3569 1"),
    ("aghb",
      "772 1 44 1 44 1"),
    ("arab",
      "1548 1 14 1 3 1 32 1 10 11 26 1 6622 1 3569 1 52988 2 1440 28"),
    ("armn",
      "776 1"),
    ("avst",
      "183 1 11640 2"),
    ("beng",
      "700 1 1684 2 17 2 4970 1 1 1 2 2 1 1 8 1 8 1 2 1 4 1 2 3 35833 1"),
    ("bopo",
      "711 1 1 3 13 1 11559 3 4 10 1 13 10 4 2 1 6 1 195 1 52553 2 282 5"),
    ("bugi",
      "43471 1"),
    ("buhd",
      "5941 2"),
    ("cakm",
      "2534 10 1616 10"),
    ("cari",
      "183 1 8098 1 2 1 3539 1"),
    ("cher",
      "768 3 1 1 6 2 22 2 11 2"),
    ("copt",
      "183 1 584 1 3 2 1 1 108 2 10913 1 54472 28"),
    ("cpmn",
      "65792 2"),
    ("cprt",
      "65792 3 4 45 3 9"),
    ("cyrl",
      "700 1 67 3 1 1 1 1 1 1 2 1 5 1 371 2 6513 1 4170 1"),
    ("deva",
      "700 1 1684 2 17 2 4970 39 1 2 1014 1 34623 10"),
    ("dogr",
      "2404 12 40640 10"),
    ("dupl",
      "183 1 591 2 1 1 24 2 11031 1 101987 4"),
    ("elba",
      "183 1 589 1"),
    ("ethi",
      "782 1"),
    ("geor",
      "183 1 1233 1 2929 1 3934 1 3542 1"),
    ("glag",
      "183 1 587 1 1 1 382 1 2 1 257 1 2929 1 3934 1 3560 1 30763 1"),
    ("gong",
      "183 1 2220 2"),
    ("gonm",
      "2404 2"),
    ("goth",
      "183 1 588 2 2 1 40 1"),
    ("gran",
      "2385 2 17 2 640 14 4316 1 1 2 30 3 3 2 1014 1 62026 1 3220 2 1 1"),
    ("grek",
      "183 1 584 2 2 1 1 1 1 1 10 1 46 1 2 1 46 1 6731 2 667 1"),
    ("gujr",
      "2385 2 17 2 40650 10"),
    ("guru",
      "2385 2 17 2 40650 10"),
    ("hang",
      "12289 3 4 10 1 13 16 1 6 1 195 1 52553 2 282 5"),
    ("hani",
      "183 1 12088 16 1 3 2 1 1 10 1 13 10 4 2 1 6 1 4 4 187 1 148 16 32 38 9 1 48 40 56 49
      15 12 51 1 88 25 10 5 96 31 29441 8 22333 2 282 5 54266 18 7902 2"),
    ("hano",
      "5941 2"),
    ("hebr",
      "775 2"),
    ("hira",
      "12289 3 4 10 1 13 16 6 1 1 4 2 91 4 3 1 90 2 52552 2 282 5 10 1 45 2"),
    ("hung",
      "8282 1 2 1 3539 1 15 1"),
    ("java",
      "43471 1"),
    ("kali",
      "43310 1"),
    ("kana",
      "773 1 29 1 11485 3 4 10 1 13 16 6 1 1 4 2 91 4 3 1 90 2 52552 2 282 5 10 1 45 2"),
    ("khoj",
      "2790 10 40256 10"),
    ("knda",
      "2385 2 17 2 4970 1 1 2 6 1 23 1 1 1 35643 6"),
    ("kthi",
      "2406 10 9409 1 31230 10"),
    ("latn",
      "183 1 516 1 10 1 1 3 1 1 9 1 1 1 38 15 1 2 1 1 15 3 7 2 1 2 38 1 5 1 4 13 277 2 1226
      2 1960 1 3324 1 566 1 192 1 3366 1 30952 8 550 1"),
    ("limb",
      "2405 1"),
    ("lina",
      "65799 45"),
    ("linb",
      "65792 3 4 45 3 9"),
    ("lisu",
      "700 1 16 1 11580 2"),
    ("lyci",
      "8282 1"),
    ("lydi",
      "183 1 11641 1"),
    ("mahj",
      "183 1 2220 12 40640 10"),
    ("mand",
      "1600 1"),
    ("mani",
      "1600 1"),
    ("mero",
      "8285 1"),
    ("mlym",
      "2385 2 17 2 4980 1 23 1 35645 3"),
    ("modi",
      "43056 10"),
    ("mong",
      "6146 2 1 1 2089 1 4049 2 5 4"),
    ("mult",
      "2662 10"),
    ("mymr",
      "43310 1"),
    ("nand",
      "2385 1 18 2 896 10 4089 1 8 1 7 1 35637 6"),
    ("newa",
      "2385 2 4994 1 1 2 9 1 6 1 1 1 1 1"),
    ("nkoo",
      "1548 1 14 1 3 1 63262 2"),
    ("orkh",
      "8282 1 3541 1"),
    ("orya",
      "2385 2 17 2 4980 1 23 1"),
    ("osge",
      "769 1 2 1 6 1 76 1"),
    ("ougr",
      "1600 1 66737 1"),
    ("perm",
      "183 1 584 1 5 3 10 1 367 1"),
    ("phag",
      "6146 2 1 1 2089 1 4050 1"),
    ("phlp",
      "1600 1"),
    ("rohg",
      "1548 1 14 1 3 1 32 1 147 1"),
    ("runr",
      "5867 3"),
    ("samr",
      "11825 1"),
    ("shaw",
      "183 1"),
    ("shrd",
      "2385 1 4997 1 1 1 2 2 2 1 9 1 2 1 35650 6 2 1"),
    ("sind",
      "2404 2 40650 10"),
    ("sinh",
      "2404 2 5004 1"),
    ("sogd",
      "1600 1"),
    ("sylo",
      "2404 2 128 10"),
    ("syrc",
      "771 2 2 2 1 1 24 3 7 2 1 2 730 1 14 2 2 1 32 1 10 11 26 1 6023 1 1 1"),
    ("tagb",
      "5941 2"),
    ("takr",
      "2404 2 40650 10"),
    ("tale",
      "768 2 5 2 3 1 3379 10"),
    ("taml",
      "2385 2 17 2 4980 1 35864 1 27149 1 1 1 55 2"),
    ("tang",
      "12272 16 495 1"),
    ("telu",
      "2385 2 17 2 4975 2 1 1 1 1 23 1"),
    ("tfng",
      "770 1 1 1 1 4 25 1"),
    ("tglg",
      "5941 2"),
    ("thaa",
      "1548 1 14 2 2 1 64 10 63368 1 10 1"),
    ("thai",
      "700 1 26 1 43 1 45 1"),
    ("tibt",
      "12296 4"),
    ("tirh",
      "2385 2 17 2 4975 1 12 1 15 1 35645 10"),
    ("toto",
      "700 1"),
    ("yezi",
      "1548 1 14 1 3 1 64 10"),
    ("yiii",
      "12289 2 5 10 2 8 223 1 52837 5"),
    ("gara",
      "1548 1 14 1 3 1"),
    ("gukh",
      "2405 1"),
    ("onao",
      "2404 2"),
    ("sunu",
      "768 2 1 1 9 1 2 1 28 1 3 1"),
    ("todr",
      "769 1 2 1 2 1 9 1 1 1 74 1"),
    ("tutg",
      "3302 10 4098 1 1 1 35643 6 187 1")]

def sharedCharacters : CharSet := extensionTexts.foldl (fun s t => s.union (setOf t.2)) .empty

/-- The characters that a script is used with. Those of no script in particular count for these only
as long as no scripts are known. -/
def extension? (name : String) : Option CharSet := do
  let t ← scriptTexts.find? fun t => t.1.contains name
  let own := setOf t.2
  if t.1.contains "zyyy" || t.1.contains "zinh" then return own.diff sharedCharacters
  else
    let others := t.1.filterMap fun n => extensionTexts.lookup n
    return others.foldl (fun s u => s.union (setOf u)) own

end Unicode
end ReleaseAudit
