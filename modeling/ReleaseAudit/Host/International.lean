import ReleaseAudit.Host
import ReleaseAudit.Punycode
import ReleaseAudit.Unicode.Shaping

/-! Names of hosts in all scripts. -/
namespace ReleaseAudit
namespace Host

/-- The characters that have no place in a name although they mean something elsewhere. -/
def strangers : CharSet :=
  Unicode.setOf "160 1 7 1 6 1 4 1 3 1 543 6 156 1 3 1 5 2 634 6 22 1 192 1 49 1 384 2 80 1 2172 2
    1311 1 307 2 80 1 7 1 1966 1 1 3 11 3 13 3 13 3 13 2 1 11 3 2 7 1 12 3 1 8 12 1 1
    1 8 3 21 1 1 3 2 10 10 1 1 3 11 1 1 3 113 2 3 2 345 1 13 2 516 66 1470 3 1401 12 4
    1 154 2 199 1 155 31 1 36 382 1 4 1 16 1 51024 1 308 6 406 2 20 1 1 5 2 1 22 1 2 6
    14 10 1 1 1 4 1 4 2 4 1 3 1 4 4 1 1 1 1 1 1 1 1 1 1 1 1 1 1 1 130 12 2 1 10 7 26 6
    26 4 65 1 66 1 21 5 4287 1 15 1 9058 16 40243 8 8069 11 5 26 790231 1 30 96"

def omitted : CharSet :=
  Unicode.setOf "173 1 673 1 5307 3 1 1 2043 1 84 1 3 1 56731 16 239 1 48544 4 803932 240"

def unused : List Unicode.Category := [.cc, .cn, .co, .cs]

def narrow (c : Char) : Char :=
  if '\uff01' ≤ c && c ≤ '\uff5e' then (Char.ofNat (c.toNat - 0xfee0)).toLower else c.toLower

def isSeparator (c : Char) : Bool := c = '.' || c = '\u3002' || c = '\uff61'

def isNameCharacter (c : Char) : Bool :=
  if c.toNat < 0x80 then c.isAlphanum || c = '-'
  else !strangers.contains c && !unused.contains (Unicode.categoryOf c)

def combining : List Unicode.Category := [.mn, .mc, .me]

/-! Joiners and directions. -/

def isJoined (side : CharSet) (cs : List Char) : Bool :=
  match cs.dropWhile Unicode.isSkippedInJoining with
  | c :: _ => side.contains c || Unicode.joinedOnBothSides.contains c
  | [] => false

/-- Whether a sign that joins or parts letters is in its place, after a sign that takes a vowel or
between letters that would be joined; `before` has the last character first. -/
def hasJoinersInPlace (before : List Char) : List Char → Bool
  | [] => true
  | c :: cs =>
    (if c = '\u200c' || c = '\u200d' then
      ((before.head?.map Unicode.viramas.contains).getD false) || (c = '\u200c' &&
        isJoined Unicode.joinedWithNext before && isJoined Unicode.joinedWithLast cs)
    else true) && hasJoinersInPlace (c :: before) cs

/-- Whether a character makes the direction of a name matter. -/
def isTurned (c : Char) : Bool := Unicode.rightToLeft.contains c || Unicode.arabicDigits.contains c

def hasOneDirection (cs : List Char) : Bool :=
  let last := (cs.reverse.dropWhile Unicode.isOnTop).head?
  let endsWith := fun (p : Char → Bool) => (last.map p).getD false
  match cs with
  | [] => true
  | first :: _ =>
    if Unicode.rightToLeft.contains first then
      let hasArabic := cs.any Unicode.arabicDigits.contains
      let hasCommon := cs.any Unicode.commonDigits.contains
      !cs.any Unicode.isLeftToRight && !(hasArabic && hasCommon) &&
        endsWith fun c => isTurned c || Unicode.commonDigits.contains c
    else
      Unicode.isLeftToRight first && !cs.any isTurned &&
        endsWith fun c => Unicode.isLeftToRight c || Unicode.commonDigits.contains c

/-! Labels. -/

/-- A label as it is read, and how long it is when it is written with the first characters only. -/
structure Label where
  chars : List Char
  length : Nat

def Label.ofChars? (cs : List Char) : Option Label :=
  if cs.take 4 = "xn--".toList then do
    let chars ← Punycode.read? (cs.drop 4)
    let isPlain := fun c => !omitted.contains c && narrow c = c && Unicode.categoryOf c ≠ .lu
    if chars.all Punycode.isBasic || !chars.all isPlain then none else return ⟨chars, cs.length⟩
  else
    return ⟨cs, if cs.all Punycode.isBasic then cs.length else 4 + Punycode.length cs⟩

def hasDashesInPlace (cs : List Char) : Bool :=
  cs.head? ≠ some '-' && cs.getLast? ≠ some '-' && (cs.drop 2).take 2 ≠ ['-', '-']

def Label.isSound (isTwoWay : Bool) (l : Label) : Bool :=
  1 ≤ l.length && l.length ≤ 63 && hasDashesInPlace l.chars && l.chars.all isNameCharacter &&
    ((l.chars.head?.map fun c => !combining.contains (Unicode.categoryOf c)).getD false) &&
    hasJoinersInPlace [] l.chars && (!isTwoWay || hasOneDirection l.chars)

/-- A name in any script. Where one of its labels is written from right to left, all of them have to
keep to their direction. -/
def isInternationalName (cs : List Char) : Bool :=
  let cs := (cs.map narrow).filter fun c => !omitted.contains c
  match (cs.splitOnP isSeparator).mapM Label.ofChars? with
  | some labels =>
    let isTwoWay := labels.any fun l => l.chars.any isTurned
    let size := labels.foldl (fun n l => n + l.length + 1) 0
    size ≤ 254 && labels.all (Label.isSound isTwoWay)
  | none => false

end Host
end ReleaseAudit
