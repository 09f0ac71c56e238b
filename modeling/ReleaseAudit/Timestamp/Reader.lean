import ReleaseAudit.Timestamp
import ReleaseAudit.Text.Blank

/-! Timestamps read from text. Blanks may stand before every number, short numbers are accepted, and
each number is checked as soon as it is read. -/
namespace ReleaseAudit
namespace Timestamp

inductive Flaw where
  | endsEarly | invalidCharacter | outOfRange | trailingText
  deriving DecidableEq, Repr

def Flaw.message : Flaw → String
  | .endsEarly => "premature end of input"
  | .invalidCharacter => "input contains invalid characters"
  | .outOfRange => "input is out of range"
  | .trailingText => "trailing input"

def readNumber (width : Option Nat) (cs : List Char) : Except Flaw (Nat × List Char) :=
  let window := match width with
    | some w => cs.take w
    | none => cs
  match window.takeWhile Decimal.isDigit with
  | [] => .error (if cs.isEmpty then .endsEarly else .invalidCharacter)
  | ds => .ok (Decimal.ofDigits ds, cs.drop ds.length)

def readField (low high : Nat) (cs : List Char) : Except Flaw (Nat × List Char) := do
  let (n, rest) ← readNumber (some 2) (Text.trimStart cs)
  if low ≤ n ∧ n ≤ high then return (n, rest) else .error .outOfRange

def readLiteral (c : Char) : List Char → Except Flaw (List Char)
  | [] => .error .endsEarly
  | d :: rest => if d = c then .ok rest else .error .invalidCharacter

/-- A year: up to four digits, or a sign and any number of digits, within 32 bits. -/
def readYear (cs : List Char) : Except Flaw (Int × List Char) :=
  match Text.trimStart cs with
  | '-' :: rest => do
    let (n, rest) ← readNumber none rest
    if n ≤ Decimal.twoTo 31 then return (-(n : Int), rest) else .error .outOfRange
  | '+' :: rest => do
    let (n, rest) ← readNumber none rest
    if n < Decimal.twoTo 31 then return ((n : Int), rest) else .error .outOfRange
  | cs => do
    let (n, rest) ← readNumber (some 4) cs
    return ((n : Int), rest)

/-- The numbers of a text `YYYY-MM-DD_hh-mm`, and what follows them. -/
def readMinute (cs : List Char) : Except Flaw (Minute × List Char) := do
  let (year, cs) ← readYear cs
  let cs ← readLiteral '-' cs
  let (month, cs) ← readField 1 12 cs
  let cs ← readLiteral '-' cs
  let (day, cs) ← readField 1 31 cs
  let cs ← readLiteral '_' cs
  let (hour, cs) ← readField 0 23 cs
  let cs ← readLiteral '-' cs
  let (minute, cs) ← readField 0 59 cs
  return (⟨year, month, day, hour, minute⟩, cs)

def ofMinute (m : Minute) : Except Flaw Timestamp :=
  if h : m.IsReal then .ok ⟨m, h⟩ else .error .outOfRange

def parse (cs : List Char) : Except Flaw Timestamp := do
  let (m, rest) ← readMinute cs
  if rest.isEmpty then ofMinute m else .error .trailingText

end Timestamp
end ReleaseAudit
