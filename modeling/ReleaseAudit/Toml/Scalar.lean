import ReleaseAudit.Decimal.Reader
import ReleaseAudit.Json.Reader
import ReleaseAudit.Toml

/-! Numbers, dates and times of a TOML document. -/
namespace ReleaseAudit
namespace Toml

def isScalarCharacter (c : Char) : Bool :=
  c.isAlphanum || c = '_' || c = '+' || c = '-' || c = '.' || c = ':'

/-- Digits with single underscores between them, as digits alone. -/
def digitRun? (isDigit : Char → Bool) : List Char → Option (List Char)
  | [] => none
  | [c] => if isDigit c then some [c] else none
  | c :: '_' :: rest => if isDigit c then (digitRun? isDigit rest).map (c :: ·) else none
  | c :: rest => if isDigit c then (digitRun? isDigit rest).map (c :: ·) else none

def digitsOfBase? (base : Nat) (cs : List Char) : Option Nat := do
  let ds ← digitRun? (fun c => ((Json.hexValue? c).map (decide <| · < base)).getD false) cs
  return ds.foldl (fun n d => n * base + (Json.hexValue? d).getD 0) 0

def boundedInteger? (i : Int) : Option Value :=
  if -(Decimal.twoTo 63 : Int) ≤ i && i < Decimal.twoTo 63 then some (.integer i) else none

def wholeDigits? (cs : List Char) : Option (List Char) := do
  let ds ← digitRun? Decimal.isDigit cs
  if ds.head? = some '0' && 1 < ds.length then none else return ds

def decimalInteger? (cs : List Char) : Option Value := do
  let (negative, cs) := Decimal.readSign cs
  let n := Decimal.ofDigits (← wholeDigits? cs)
  boundedInteger? (if negative then -(n : Int) else n)

def markedInteger? : List Char → Option Value
  | '0' :: 'x' :: cs => do boundedInteger? (← digitsOfBase? 16 cs)
  | '0' :: 'o' :: cs => do boundedInteger? (← digitsOfBase? 8 cs)
  | '0' :: 'b' :: cs => do boundedInteger? (← digitsOfBase? 2 cs)
  | _ => none

def isExponentMark (c : Char) : Bool := c = 'e' || c = 'E'

def exponent? : List Char → Option Int
  | [] => some 0
  | _ :: cs => do
    let (negative, cs) := Decimal.readSign cs
    let n := Decimal.ofDigits (← digitRun? Decimal.isDigit cs)
    return if negative then -(n : Int) else n

def fraction? : List Char → Option (List Char)
  | [] => some []
  | _ :: cs => digitRun? Decimal.isDigit cs

def special? (s : String) : Option Float :=
  if s = "inf" then some (1 / 0) else if s = "nan" then some (0 / 0) else none

/-- A float: with a point or an exponent and finite, or one of the two words for what is not. -/
def float? (cs : List Char) : Option Value := do
  let (negative, cs) := Decimal.readSign cs
  match special? (String.ofList cs) with
  | some x => return .float (if negative then -x else x)
  | none =>
    if !(cs.any fun c => c = '.' || isExponentMark c) then none
    let mantissa := cs.takeWhile fun c => !isExponentMark c
    let whole ← wholeDigits? (mantissa.takeWhile (· ≠ '.'))
    let fraction ← fraction? (mantissa.dropWhile (· ≠ '.'))
    let e ← exponent? (cs.dropWhile fun c => !isExponentMark c)
    let x := Decimal.toFloat negative (Decimal.ofDigits (whole ++ fraction)) (e - fraction.length)
    if x.isFinite then return .float x else none

/-- A number of exactly `width` digits, and the text after it. -/
def fixed? (width : Nat) (cs : List Char) : Option (Nat × List Char) :=
  let ds := cs.take width
  if ds.length = width && ds.all Decimal.isDigit then some (Decimal.ofDigits ds, cs.drop width)
  else none

def literal? (c : Char) : List Char → Option (List Char)
  | d :: cs => if d = c then some cs else none
  | [] => none

def daysIn (year month : Nat) : Nat :=
  let isLeap := year % 4 = 0 && (year % 100 ≠ 0 || year % 400 = 0)
  if month = 2 then if isLeap then 29 else 28
  else if month = 4 || month = 6 || month = 9 || month = 11 then 30
  else 31

def date? (cs : List Char) : Option (List Char) := do
  let (year, cs) ← fixed? 4 cs
  let (month, cs) ← fixed? 2 (← literal? '-' cs)
  let (day, cs) ← fixed? 2 (← literal? '-' cs)
  if 1 ≤ month && month ≤ 12 && 1 ≤ day && day ≤ daysIn year month then return cs else none

/-- The seconds of a time and their fraction, which may both be missing; the text after them. -/
def seconds? : List Char → Option (List Char)
  | ':' :: cs => do
    let (second, cs) ← fixed? 2 cs
    if 60 < second then none
    else match cs with
      | '.' :: d :: cs => if Decimal.isDigit d then return cs.dropWhile Decimal.isDigit else none
      | cs => return cs
  | cs => some cs

def time? (cs : List Char) : Option (List Char) := do
  let (hour, cs) ← fixed? 2 cs
  let (minute, cs) ← fixed? 2 (← literal? ':' cs)
  if hour ≤ 23 && minute ≤ 59 then seconds? cs else none

def isOffset : List Char → Bool
  | [] => true
  | ['Z'] | ['z'] => true
  | c :: cs =>
    (c = '+' || c = '-') && ((do
      let (hour, cs) ← fixed? 2 cs
      let (minute, cs) ← fixed? 2 (← literal? ':' cs)
      return hour ≤ 23 && minute ≤ 59 && cs.isEmpty) : Option Bool) = some true

def moment? (cs : List Char) : Option Value :=
  match date? cs with
  | some [] => some .moment
  | some (c :: rest) =>
    if c = 'T' || c = 't' || c = ' ' then do
      if isOffset (← time? rest) then return .moment else none
    else none
  | none => do if (← time? cs).isEmpty then return .moment else none

/-- The value that an unquoted text stands for. -/
def scalar? (cs : List Char) : Option Value :=
  if cs = "true".toList then some (.boolean true)
  else if cs = "false".toList then some (.boolean false)
  else markedInteger? cs <|> decimalInteger? cs <|> float? cs <|> moment? cs

/-- The unquoted text that starts here, and the rest. A time may follow a date after a blank. -/
def scalarText (cs : List Char) : List Char × List Char :=
  let first := cs.takeWhile isScalarCharacter
  let rest := cs.dropWhile isScalarCharacter
  match rest with
  | ' ' :: d :: more =>
    if date? first = some [] && Decimal.isDigit d then
      let second := (d :: more).takeWhile isScalarCharacter
      (first ++ ' ' :: second, (d :: more).dropWhile isScalarCharacter)
    else (first, rest)
  | _ => (first, rest)

end Toml
end ReleaseAudit
