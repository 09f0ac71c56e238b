import ReleaseAudit.Json
import ReleaseAudit.Decimal.Shortest

/-! JSON texts read as values. A number keeps as many leading digits as fit into sixty-four bits and
is scaled by a power of ten; containers nest at most 127 deep. -/
namespace ReleaseAudit
namespace Json

inductive Flaw where
  | unexpectedEnd | unexpectedCharacter (c : Char) | controlCharacter | badEscape | badNumber
  | numberOutOfRange | tooDeep | trailingCharacters
  deriving DecidableEq, Repr

def Flaw.message : Flaw → String
  | .unexpectedEnd => "the document ends too early"
  | .unexpectedCharacter c => "unexpected character " ++ String.singleton c
  | .controlCharacter => "control character inside a string"
  | .badEscape => "invalid escape sequence"
  | .badNumber => "invalid number"
  | .numberOutOfRange => "number out of range"
  | .tooDeep => "recursion limit exceeded"
  | .trailingCharacters => "trailing characters"

def isSpace (c : Char) : Bool := c = ' ' || c = '\n' || c = '\t' || c = '\r'

def skipSpaces (cs : List Char) : List Char := cs.dropWhile isSpace

structure Literal where
  negative : Bool
  whole : List Char
  fraction : Option (List Char)
  /-- Whether the exponent is negative, and its digits. -/
  exponent : Option (Bool × List Char)
  deriving DecidableEq, Repr

def digitsOf (cs : List Char) : List Char × List Char :=
  (cs.takeWhile Decimal.isDigit, cs.dropWhile Decimal.isDigit)

def someDigits (cs : List Char) : Except Flaw (List Char × List Char) :=
  match digitsOf cs with
  | ([], []) => .error .unexpectedEnd
  | ([], _ :: _) => .error .badNumber
  | found => .ok found

def Literal.readExponent (l : Literal) : List Char → Except Flaw (Literal × List Char)
  | c :: cs =>
    if c = 'e' || c = 'E' then do
      let (minus, cs) := match cs with
        | '-' :: rest => (true, rest)
        | '+' :: rest => (false, rest)
        | _ => (false, cs)
      let (ds, cs) ← someDigits cs
      return ({ l with exponent := some (minus, ds) }, cs)
    else .ok (l, c :: cs)
  | [] => .ok (l, [])

def Literal.readFraction (l : Literal) : List Char → Except Flaw (Literal × List Char)
  | '.' :: cs => do
    let (ds, cs) ← someDigits cs
    { l with fraction := some ds }.readExponent cs
  | cs => l.readExponent cs

/-- A number: no digit follows a leading zero. -/
def Literal.read (cs : List Char) : Except Flaw (Literal × List Char) := do
  let (negative, cs) := match cs with
    | '-' :: rest => (true, rest)
    | _ => (false, cs)
  let (ds, cs) ← someDigits cs
  match ds with
  | '0' :: _ :: _ => .error .badNumber
  | _ => (⟨negative, ds, none, none⟩ : Literal).readFraction cs

/-- A significand below `Decimal.twoTo 64` and the power of ten that scales it. -/
structure Scaled where
  significand : Nat
  exponent : Int
  deriving DecidableEq, Repr

def Scaled.push? (s : Scaled) (d : Char) : Option Nat :=
  let next := s.significand * 10 + Decimal.digitValue d
  if next < Decimal.twoTo 64 then some next else none

/-- Digits before the point: from the first that no longer fits, each only raises the exponent. -/
def Scaled.pushWhole (s : Scaled) : List Char → Scaled
  | [] => s
  | d :: ds =>
    match s.push? d with
    | some n => pushWhole ⟨n, s.exponent⟩ ds
    | none => ⟨s.significand, s.exponent + ((d :: ds).length : Int)⟩

/-- Digits after the point: the first that no longer fits ends them. -/
def Scaled.pushFraction (s : Scaled) : List Char → Scaled
  | [] => s
  | d :: ds =>
    match s.push? d with
    | some n => pushFraction ⟨n, s.exponent - 1⟩ ds
    | none => s

def powerOfTen (n : Nat) : Float := Decimal.toFloat false 1 n

/-- A significand scaled by a power of ten, in one rounding step per 308 places. -/
def scaleFloat (fuel : Nat) (x : Float) (exponent : Int) : Except Flaw Float :=
  if exponent.natAbs ≤ 308 then
    if 0 ≤ exponent then
      let y := x * powerOfTen exponent.natAbs
      if y.isInf then .error .numberOutOfRange else .ok y
    else .ok (x / powerOfTen exponent.natAbs)
  else if x == 0 then .ok x
  else if 0 ≤ exponent then .error .numberOutOfRange
  else match fuel with
    | 0 => .ok 0
    | fuel + 1 => scaleFloat fuel (x / powerOfTen 308) (exponent + 308)

/-- The largest exponent that is added up; a longer one is zero or out of range by itself. -/
def exponentLimit : Nat := Decimal.twoTo 31 - 1

def Literal.scaled (l : Literal) : Scaled :=
  (Scaled.pushWhole ⟨0, 0⟩ l.whole).pushFraction (l.fraction.getD [])

def Literal.floatValue (l : Literal) : Except Flaw Float := do
  let s := l.scaled
  let magnitude ← match l.exponent with
    | none => scaleFloat 8 (Float.ofNat s.significand) s.exponent
    | some (minus, ds) =>
      let e := Decimal.ofDigits ds
      if exponentLimit < e then
        if s.significand ≠ 0 && !minus then .error .numberOutOfRange else .ok 0
      else scaleFloat 8 (Float.ofNat s.significand) (s.exponent + (if minus then -(e : Int) else e))
  return if l.negative then -magnitude else magnitude

/-- A literal without fraction and exponent that fits sixty-four bits is an integer. Minus zero is
a float. -/
def Literal.value (l : Literal) : Except Flaw Json :=
  let n := Decimal.ofDigits l.whole
  if l.fraction.isNone && l.exponent.isNone && !l.negative && n < Decimal.twoTo 64 then .ok (.int n)
  else if l.fraction.isNone && l.exponent.isNone && l.negative && n ≠ 0 && n ≤ Decimal.twoTo 63 then
    .ok (.int (-(n : Int)))
  else l.floatValue.map .float

def hexValue? (c : Char) : Option Nat :=
  if '0' ≤ c && c ≤ '9' then some (c.toNat - 48)
  else if 'a' ≤ c && c ≤ 'f' then some (c.toNat - 87)
  else if 'A' ≤ c && c ≤ 'F' then some (c.toNat - 55)
  else none

def hexValue4? (a b c d : Char) : Option Nat := do
  return (((← hexValue? a) * 16 + (← hexValue? b)) * 16 + (← hexValue? c)) * 16 + (← hexValue? d)

def isHighSurrogate (n : Nat) : Bool := 0xd800 ≤ n && n < 0xdc00

def isLowSurrogate (n : Nat) : Bool := 0xdc00 ≤ n && n < 0xe000

def simpleEscape? : Char → Option Char
  | '"' => some '"'
  | '\\' => some '\\'
  | '/' => some '/'
  | 'b' => some '\x08'
  | 'f' => some '\x0c'
  | 'n' => some '\n'
  | 'r' => some '\r'
  | 't' => some '\t'
  | _ => none

/-- A code unit written in hexadecimal, with the second unit of a pair if it needs one. -/
def unicodeEscape : List Char → Except Flaw (Char × Nat)
  | a :: b :: c :: d :: rest => do
    let some high := hexValue4? a b c d | .error .badEscape
    if isLowSurrogate high then .error .badEscape
    else if isHighSurrogate high then
      match rest with
      | '\\' :: 'u' :: e :: f :: g :: h :: _ =>
        let some low := hexValue4? e f g h | .error .badEscape
        if isLowSurrogate low then
          return (Char.ofNat (0x10000 + (high - 0xd800) * 0x400 + (low - 0xdc00)), 10)
        else .error .badEscape
      | _ => .error .badEscape
    else return (Char.ofNat high, 4)
  | _ => .error .badEscape

def stringBody (fuel : Nat) (cs : List Char) : Except Flaw (List Char × List Char) :=
  match fuel, cs with
  | 0, _ => .error .unexpectedEnd
  | _ + 1, [] => .error .unexpectedEnd
  | _ + 1, '"' :: rest => .ok ([], rest)
  | fuel + 1, '\\' :: 'u' :: rest => do
    let (c, used) ← unicodeEscape rest
    let (body, rest) ← stringBody fuel (rest.drop used)
    return (c :: body, rest)
  | fuel + 1, '\\' :: c :: rest => do
    let some c := simpleEscape? c | .error .badEscape
    let (body, rest) ← stringBody fuel rest
    return (c :: body, rest)
  | _ + 1, ['\\'] => .error .unexpectedEnd
  | fuel + 1, c :: rest => do
    if c.toNat < 0x20 then .error .controlCharacter
    let (body, rest) ← stringBody fuel rest
    return (c :: body, rest)

def readString (cs : List Char) : Except Flaw (String × List Char) :=
  (stringBody (cs.length + 1) cs).map fun r => (String.ofList r.1, r.2)

def expectWord (word : List Char) (v : Json) (cs : List Char) : Except Flaw (Json × List Char) :=
  if word.isPrefixOf cs then .ok (v, cs.drop word.length)
  else if cs.length < word.length then .error .unexpectedEnd
  else .error (.unexpectedCharacter (cs.headD ' '))

mutual

/-- A value and the text after it; `levels` containers may still be opened. -/
def readValue (fuel levels : Nat) (cs : List Char) : Except Flaw (Json × List Char) :=
  match fuel with
  | 0 => .error .unexpectedEnd
  | fuel + 1 =>
    match skipSpaces cs with
    | [] => .error .unexpectedEnd
    | '"' :: rest => (readString rest).map fun r => (.str r.1, r.2)
    | '[' :: rest =>
      match levels with
      | levels + 1 =>
        match skipSpaces rest with
        | ']' :: rest => .ok (.arr [], rest)
        | rest => (readItems fuel levels rest).map fun r => (.arr r.1, r.2)
      | 0 => .error .tooDeep
    | '\x7b' :: rest =>
      match levels with
      | levels + 1 =>
        match skipSpaces rest with
        | '\x7d' :: rest => .ok (.obj [], rest)
        | rest => (readFields fuel levels rest).map fun r => (ofFields r.1, r.2)
      | 0 => .error .tooDeep
    | 'n' :: rest => expectWord ['u', 'l', 'l'] .null rest
    | 't' :: rest => expectWord ['r', 'u', 'e'] (.bool true) rest
    | 'f' :: rest => expectWord ['a', 'l', 's', 'e'] (.bool false) rest
    | c :: rest =>
      if c = '-' || Decimal.isDigit c then do
        let (l, rest) ← Literal.read (c :: rest)
        return (← l.value, rest)
      else .error (.unexpectedCharacter c)

def readItems (fuel levels : Nat) (cs : List Char) : Except Flaw (List Json × List Char) :=
  match fuel with
  | 0 => .error .unexpectedEnd
  | fuel + 1 => do
    let (v, rest) ← readValue fuel levels cs
    match skipSpaces rest with
    | ',' :: rest => (readItems fuel levels rest).map fun r => (v :: r.1, r.2)
    | ']' :: rest => return ([v], rest)
    | [] => .error .unexpectedEnd
    | c :: _ => .error (.unexpectedCharacter c)

def readFields (fuel levels : Nat) (cs : List Char) :
    Except Flaw (List (String × Json) × List Char) :=
  match fuel with
  | 0 => .error .unexpectedEnd
  | fuel + 1 =>
    match skipSpaces cs with
    | '"' :: rest => do
      let (key, rest) ← readString rest
      match skipSpaces rest with
      | ':' :: rest =>
        let (v, rest) ← readValue fuel levels rest
        match skipSpaces rest with
        | ',' :: rest => (readFields fuel levels rest).map fun r => ((key, v) :: r.1, r.2)
        | '\x7d' :: rest => return ([(key, v)], rest)
        | [] => .error .unexpectedEnd
        | c :: _ => .error (.unexpectedCharacter c)
      | [] => .error .unexpectedEnd
      | c :: _ => .error (.unexpectedCharacter c)
    | [] => .error .unexpectedEnd
    | c :: _ => .error (.unexpectedCharacter c)

end

/-- How many containers may be open at once. -/
def maxLevels : Nat := 127

def parse (text : String) : Except Flaw Json := do
  let cs := text.toList
  let (v, rest) ← readValue (2 * cs.length + 2) maxLevels cs
  if (skipSpaces rest).isEmpty then return v else .error .trailingCharacters

end Json
end ReleaseAudit
