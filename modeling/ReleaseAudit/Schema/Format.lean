import ReleaseAudit.Email
import ReleaseAudit.Host.International
import ReleaseAudit.Pattern.Reader
import ReleaseAudit.Schema.Draft
import ReleaseAudit.Timestamp
import ReleaseAudit.Uri.Reader

/-! The forms of text that a schema can ask for by name. -/
namespace ReleaseAudit
namespace Schema

inductive Format where
  | date | dateTime | time | email | idnEmail | hostname | idnHostname | ipv4 | ipv6 | uri
  | uriReference | uriTemplate | iri | iriReference | regex | jsonPointer | relativeJsonPointer
  deriving DecidableEq, Repr

namespace Format

/-- All formats with their names and the drafts that brought them. -/
def all : List (String × Draft × Format) :=
  [("date", .draft4, date), ("date-time", .draft4, dateTime), ("time", .draft4, time),
    ("email", .draft4, email), ("idn-email", .draft4, idnEmail), ("hostname", .draft4, hostname),
    ("ipv4", .draft4, ipv4), ("ipv6", .draft4, ipv6), ("uri", .draft4, uri),
    ("regex", .draft4, regex), ("uri-reference", .draft6, uriReference),
    ("uri-template", .draft6, uriTemplate), ("json-pointer", .draft6, jsonPointer),
    ("idn-hostname", .draft7, idnHostname), ("iri", .draft7, iri),
    ("iri-reference", .draft7, iriReference),
    ("relative-json-pointer", .draft7, relativeJsonPointer)]

/-- The format of a name in a draft. Since 2019 the names are mere remarks. -/
def named? (d : Draft) (name : String) : Option Format :=
  if d.isSince .draft2019 then none
  else (all.find? fun f => f.1 = name && d.isSince f.2.1).map (·.2.2)

def number? (cs : List Char) : Option Nat :=
  if cs ≠ [] && cs.all Decimal.isDigit then some (Decimal.ofDigits cs) else none

/-- The number that the figures of a date or a time stand for. The six signs after the digits count
as figures from ten on. -/
def figures? (cs : List Char) : Option Nat :=
  if cs.all fun c => '0' ≤ c && c ≤ '?' then
    some (cs.foldl (fun n c => 10 * n + (c.toNat - 0x30)) 0)
  else none

def isDate : List Char → Bool
  | [y₁, y₂, y₃, y₄, '-', m₁, m₂, '-', d₁, d₂] =>
    match figures? [y₁, y₂, y₃, y₄], figures? [m₁, m₂], figures? [d₁, d₂] with
    | some year, some month, some day =>
      1 ≤ month && month ≤ 12 && 1 ≤ day && day ≤ daysInMonth year month
    | _, _, _ => false
  | _ => false

/-- How many minutes a zone is ahead. -/
def zone? : List Char → Option Int
  | ['Z'] => some 0
  | ['z'] => some 0
  | [sign, h₁, h₂, ':', m₁, m₂] =>
    match figures? [h₁, h₂], figures? [m₁, m₂] with
    | some hour, some minute =>
      if 23 < hour || 59 < minute then none
      else if sign = '+' then some (hour * 60 + minute)
      else if sign = '-' then some (-(hour * 60 + minute))
      else none
    | _, _ => none
  | _ => none

def afterFraction? : List Char → Option (List Char)
  | '.' :: cs =>
    let rest := cs.dropWhile Decimal.isDigit
    if rest.length < cs.length then some rest else none
  | cs => some cs

/-- A time `hh:mm:ss` with a zone. The second 60 is the last one of a day at Greenwich. -/
def isTime : List Char → Bool
  | h₁ :: h₂ :: ':' :: m₁ :: m₂ :: ':' :: s₁ :: s₂ :: rest =>
    let zone := (afterFraction? rest).bind zone?
    match figures? [h₁, h₂], figures? [m₁, m₂], figures? [s₁, s₂], zone with
    | some hour, some minute, some second, some ahead =>
      hour ≤ 23 && minute ≤ 59 &&
        (second ≤ 59 || (second = 60 && ((hour * 60 + minute : Nat) - ahead) % 1440 = 1439))
    | _, _, _, _ => false
  | _ => false

def isTimeMark (c : Char) : Bool := c = 'T' || c = 't'

def isDateTime (cs : List Char) : Bool :=
  match cs.dropWhile fun c => !isTimeMark c with
  | _ :: after => isDate (cs.takeWhile fun c => !isTimeMark c) && isTime after
  | [] => false

/-- Whether every tilde is followed by one of the two digits that give it a meaning. -/
def hasPointerEscapes : List Char → Bool
  | '~' :: '0' :: cs | '~' :: '1' :: cs => hasPointerEscapes cs
  | '~' :: _ => false
  | _ :: cs => hasPointerEscapes cs
  | [] => true

def isPointer (cs : List Char) : Bool :=
  (cs = [] || cs.head? = some '/') && hasPointerEscapes cs

/-- A number of steps upwards, and a way from there or a mark. -/
def isRelativePointer (cs : List Char) : Bool :=
  let digits := cs.takeWhile Decimal.isDigit
  let rest := cs.drop digits.length
  digits ≠ [] && (digits = ['0'] || digits.head? ≠ some '0') && (rest = ['#'] || isPointer rest)

def isLowerHex (c : Char) : Bool := Decimal.isDigit c || ('a' ≤ c && c ≤ 'f')

/-- Whether a text holds only characters that pass a test, and escapes in small letters. -/
def holdsOnly (p : Char → Bool) : List Char → Bool
  | '%' :: a :: b :: cs => isLowerHex a && isLowerHex b && holdsOnly p cs
  | c :: cs => c ≠ '%' && p c && holdsOnly p cs
  | [] => true

def isTemplateText (c : Char) : Bool :=
  ' ' < c && !"\"'<>\\^\x60\x7b|\x7d".toList.contains c

def isVariableCharacter (c : Char) : Bool := Decimal.isDigit c || ('a' ≤ c && c ≤ 'z') || c = '_'

def isModifier : List Char → Bool
  | [] => true
  | ['*'] => true
  | ':' :: cs => cs.length ≤ 4 && cs.head? ≠ some '0' && (number? cs).isSome
  | _ => false

def isVariable (cs : List Char) : Bool :=
  let name := cs.takeWhile fun c => c ≠ ':' && c ≠ '*'
  name ≠ [] && holdsOnly isVariableCharacter name && isModifier (cs.drop name.length)

/-- What a template has between braces: an operator, and variables with commas between them. -/
def isExpression (cs : List Char) : Bool :=
  let listed := match cs with
    | c :: rest => if "+#./;?&=,!@|".toList.contains c then rest else c :: rest
    | [] => []
  (listed.splitOn ',').all isVariable

def isTemplate (cs : List Char) : Bool :=
  match cs.splitOn '\x7b' with
  | first :: pieces =>
    holdsOnly isTemplateText first && pieces.all fun piece =>
      match Uri.cut '\x7d' piece with
      | (inner, some after) => isExpression inner && holdsOnly isTemplateText after
      | (_, none) => false
  | [] => true

def isAbsolute (anyScript : Bool) (s : String) : Bool :=
  ((Uri.parse? anyScript s).bind (·.scheme)).isSome

def accepts (f : Format) (s : String) : Bool :=
  match f with
  | date => isDate s.toList
  | dateTime => isDateTime s.toList
  | time => isTime s.toList
  | email => Email.isAddress Host.isName s.toList
  | idnEmail => Email.isAddress Host.isInternationalName s.toList
  | hostname => Host.isName s.toList
  | idnHostname => Host.isInternationalName s.toList
  | ipv4 => Host.isV4 s.toList
  | ipv6 => Host.isV6 s.toList
  | uri => isAbsolute false s
  | uriReference => (Uri.parse? false s).isSome
  | uriTemplate => isTemplate s.toList
  | iri => isAbsolute true s
  | iriReference => (Uri.parse? true s).isSome
  | regex => (Pattern.ofText? s).isSome
  | jsonPointer => isPointer s.toList
  | relativeJsonPointer => isRelativePointer s.toList

end Format
end Schema
end ReleaseAudit
