import ReleaseAudit.CharSet
import ReleaseAudit.Decimal.Digits

/-! Labels of all scripts written with the letters, digits and dashes of the first characters: the
others are taken in ascending order, and the distances between them become numbers whose digits
have weights that follow the numbers met before. -/
namespace ReleaseAudit
namespace Punycode

def isBasic (c : Char) : Bool := c.toNat < 0x80

/-- The digits that end a number at some place of it. -/
def threshold (bias k : Nat) : Nat := if k ≤ bias then 1 else min 26 (k - bias)

def shrink (fuel k delta : Nat) : Nat × Nat :=
  match fuel with
  | 0 => (k, delta)
  | fuel + 1 => if 455 < delta then shrink fuel (k + 36) (delta / 35) else (k, delta)

/-- The bias after a number, when so many characters are known. -/
def adapt (isFirst : Bool) (delta count : Nat) : Nat :=
  let delta := if isFirst then delta / 700 else delta / 2
  let (k, delta) := shrink delta 0 (delta + delta / count)
  k + 36 * delta / (delta + 38)

/-- The number of digits of a number. -/
def width (fuel bias k n : Nat) : Nat :=
  match fuel with
  | 0 => 1
  | fuel + 1 =>
    let t := threshold bias k
    if n < t then 1 else width fuel bias (k + 36) ((n - t) / (36 - t)) + 1

/-- How far the writing has come: the digits so far, the distance, the bias and the number of
characters that are written. -/
structure Writing where
  digits : Nat
  delta : Nat
  bias : Nat
  count : Nat

/-- Goes past one character while those with this code point are written. -/
def Writing.pass (basic code : Nat) (w : Writing) (c : Char) : Writing :=
  if c.toNat < code then { w with delta := w.delta + 1 }
  else if c.toNat = code then
    ⟨w.digits + width w.delta w.bias 36 w.delta, 0,
      adapt (w.count = basic) w.delta (w.count + 1), w.count + 1⟩
  else w

def digitsOf (cs : List Char) (basic next : Nat) (w : Writing) : List Nat → Nat
  | [] => w.digits
  | code :: codes =>
    let w := { w with delta := w.delta + (code - next) * (w.count + 1) }
    let w := cs.foldl (Writing.pass basic code) w
    digitsOf cs basic (code + 1) { w with delta := w.delta + 1 } codes

def codesOf (s : CharSet) : List Nat :=
  s.runs.flatMap fun r => (List.range (r.2 + 1 - r.1)).map (r.1 + ·)

def length (cs : List Char) : Nat :=
  let basic := (cs.filter isBasic).length
  let codes := codesOf (.ofChars (cs.filter fun c => !isBasic c))
  basic + (if basic = 0 then 0 else 1) + digitsOf cs basic 0x80 ⟨0, 0, 72, basic⟩ codes

def digit? (c : Char) : Option Nat :=
  if c.isAlpha then some (c.toLower.toNat - 0x61)
  else if c.isDigit then some (c.toNat - 0x30 + 26)
  else none

def number? (bias k weight : Nat) : List Char → Option (Nat × List Char)
  | [] => none
  | c :: cs => do
    let d ← digit? c
    if d < threshold bias k then return (d * weight, cs)
    else
      let (n, rest) ← number? bias (k + 36) (weight * (36 - threshold bias k)) cs
      return (d * weight + n, rest)

/-- The characters that are read from digits, with those that are known; the next one has at least
this code point, and comes at least at this place if it has this one. -/
def insertAll (fuel bias code place : Nat) (known cs : List Char) : Option (List Char) :=
  match fuel with
  | 0 => none
  | fuel + 1 =>
    if cs = [] then some known
    else do
      let (delta, rest) ← number? bias 36 1 cs
      let count := known.length + 1
      let next := place + delta
      let code := code + next / count
      if code.isValidChar then
        let known := known.insertIdx (next % count) (Char.ofNat code)
        insertAll fuel (adapt (place = 0) delta count) code (next % count + 1) known rest
      else none

def read? (cs : List Char) : Option (List Char) :=
  let digits := (cs.reverse.takeWhile (· ≠ '-')).reverse
  let known := cs.take (cs.length - digits.length - 1)
  if known.all isBasic then insertAll (cs.length + 1) 72 0x80 0 known digits else none

end Punycode
end ReleaseAudit
