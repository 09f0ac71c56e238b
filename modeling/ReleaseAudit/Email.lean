import ReleaseAudit.Host
import ReleaseAudit.Text.Blank
import ReleaseAudit.Text.Utf8

/-! Addresses of electronic mail, perhaps with a name to show before them. -/
namespace ReleaseAudit
namespace Email

def isWordCharacter (c : Char) : Bool :=
  c.isAlphanum || 0x80 ≤ c.toNat || "!#$%&'*+-/=?^_\x60\x7b|\x7d~".toList.contains c

def isWord (cs : List Char) : Bool := cs ≠ [] && cs.all isWordCharacter

/-- The characters that a quoted name may hold, where a backslash takes the next one along. -/
def isQuotedText : List Char → Bool
  | [] => true
  | '\\' :: c :: cs => 0x21 ≤ c.toNat && c.toNat ≤ 0x7e && isQuotedText cs
  | c :: cs =>
    (c = ' ' || c = '\t' || (0x21 ≤ c.toNat && c ≠ '"' && c ≠ '\\' && c ≠ '\x7f')) &&
      isQuotedText cs

def isLocalPart (cs : List Char) : Bool :=
  cs ≠ [] && Text.Utf8.size cs ≤ 64 &&
    if cs.head? = some '"' && cs.getLast? = some '"' then
      2 < cs.length && isQuotedText ((cs.drop 1).dropLast)
    else (cs.splitOn '.').all isWord

def isLiteralCharacter (c : Char) : Bool :=
  (0x21 ≤ c.toNat && c.toNat ≤ 0x5a) || (0x5e ≤ c.toNat && c.toNat ≤ 0x7e) || 0x80 ≤ c.toNat

def isBracketed (cs : List Char) : Bool := cs.head? = some '[' && cs.getLast? = some ']'

def isDomain (cs : List Char) : Bool :=
  cs ≠ [] && Text.Utf8.size cs ≤ 254 &&
    if isBracketed cs then ((cs.drop 1).dropLast).all isLiteralCharacter
    else (cs.splitOn '.').all fun label => isWord label && Text.Utf8.size label ≤ 63

def splitAtSign? (cs : List Char) : Option (List Char × List Char) :=
  if cs.contains '@' then
    some (((cs.reverse.dropWhile (· ≠ '@')).drop 1).reverse,
      (cs.reverse.takeWhile (· ≠ '@')).reverse)
  else none

/-- What is after the last blank with an opening bracket behind it, if there is one. -/
def afterName? : List Char → Option (List Char)
  | [] => none
  | ' ' :: '<' :: cs => (afterName? cs).orElse fun _ => some cs
  | _ :: cs => afterName? cs

def withoutName? (cs : List Char) : Option (List Char) :=
  match afterName? cs with
  | none => some cs
  | some after =>
    let inner := Text.trimEnd (Text.trimStart after)
    if inner.getLast? = some '>' then some inner.dropLast else none

/-- A domain whose name or number is that of a host. -/
def isHost (isName : List Char → Bool) (domain : List Char) : Bool :=
  if isBracketed domain then
    let inner := (domain.drop 1).dropLast
    if inner.take 5 = "IPv6:".toList then Host.isV6 (inner.drop 5) else Host.isV4 inner
  else isName domain

/-- Whether a text is an address; `isName` judges names of hosts. -/
def isAddress (isName : List Char → Bool) (cs : List Char) : Bool :=
  match (withoutName? cs).bind splitAtSign? with
  | some (name, domain) => isLocalPart name && isDomain domain && isHost isName domain
  | none => false

end Email
end ReleaseAudit
