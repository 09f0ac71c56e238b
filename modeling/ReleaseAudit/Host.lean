import ReleaseAudit.Json.Reader
import ReleaseAudit.Unicode.Property

/-! The names and the numbers of hosts. -/
namespace ReleaseAudit
namespace Host

def isByte (cs : List Char) : Bool :=
  cs ≠ [] && cs.length ≤ 3 && cs.all Decimal.isDigit && Decimal.ofDigits cs < 256 &&
    (cs.length = 1 || cs.head? ≠ some '0')

def isV4 (cs : List Char) : Bool :=
  let parts := cs.splitOn '.'
  parts.length = 4 && parts.all isByte

def isGroup (cs : List Char) : Bool :=
  cs ≠ [] && cs.length ≤ 4 && cs.all fun c => (Json.hexValue? c).isSome

/-- How many groups of a long address these parts are; the last one may be a short address. -/
def groupCount? (mayEndShort : Bool) : List (List Char) → Option Nat
  | [] => some 0
  | [last] =>
    if isGroup last then some 1 else if mayEndShort && isV4 last then some 2 else none
  | part :: parts => if isGroup part then (groupCount? mayEndShort parts).map (· + 1) else none

def groupsOf? (mayEndShort : Bool) (cs : List Char) : Option Nat :=
  if cs = [] then some 0 else groupCount? mayEndShort (cs.splitOn ':')

def cutAtGap : List Char → Option (List Char × List Char)
  | ':' :: ':' :: cs => some ([], cs)
  | c :: cs => (cutAtGap cs).map fun r => (c :: r.1, r.2)
  | [] => none

/-- Eight groups with colons between them, of which a double colon may leave some out. -/
def isV6 (cs : List Char) : Bool :=
  match cutAtGap cs with
  | none => groupsOf? true cs = some 8
  | some (before, after) =>
    match groupsOf? false before, groupsOf? true after with
    | some m, some n => m + n ≤ 7
    | _, _ => false

def isAlphanumeric (c : Char) : Bool :=
  if c.toNat < 0x80 then c.isAlphanum
  else Unicode.alphabetic.contains c || [.nd, .nl, .no].contains (Unicode.categoryOf c)

/-- Labels of up to 63 characters with dots between them. -/
def isName (cs : List Char) : Bool :=
  cs ≠ [] && cs.head? ≠ some '-' && cs.getLast? ≠ some '-' && cs.length ≤ 255 &&
    cs.all (fun c => isAlphanumeric c || c = '-' || c = '.') &&
    (cs.splitOn '.').all fun label => label.length ≤ 63

end Host
end ReleaseAudit
