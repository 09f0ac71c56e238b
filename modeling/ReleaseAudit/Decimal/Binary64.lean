import ReleaseAudit.Decimal.Digits

/-! Double precision numbers as `m * 2 ^ q`, and the double nearest to a fraction. -/
namespace ReleaseAudit
namespace Decimal

/-- A finite double is `mantissa * 2 ^ exponent`, up to its sign. -/
structure Binary where
  negative : Bool
  mantissa : Nat
  exponent : Int
  deriving DecidableEq, Repr

def Binary.ofBits (bits : UInt64) : Binary :=
  let n : Nat := bits.toNat
  let biased : Nat := n / twoTo 52 % twoTo 11
  if biased = 0 then ⟨n / twoTo 63 = 1, n % twoTo 52, -1074⟩
  else ⟨n / twoTo 63 = 1, n % twoTo 52 + twoTo 52, (biased : Int) - 1075⟩

def Binary.ofFloat (x : Float) : Binary := .ofBits x.toBits

def scaleByTwo (num den : Nat) (k : Int) : Nat × Nat :=
  if 0 ≤ k then (num * twoTo k.toNat, den) else (num, den * twoTo k.natAbs)

/-- The integer nearest to `num / den`; a half goes to the even neighbour. -/
def roundHalfEven (num den : Nat) : Nat :=
  let q := num / den
  let r := num % den
  if 2 * r < den then q
  else if den < 2 * r then q + 1
  else if q % 2 = 0 then q else q + 1

def exponentOf (num den : Nat) : Int :=
  let guess : Int := (num.log2 : Int) - den.log2
  let scaled := scaleByTwo num den (-guess)
  let top := if scaled.2 ≤ scaled.1 then guess else guess - 1
  max (top - 52) (-1074)

/-- The bits of the double nearest to `num / den`; too large a fraction gives those of infinity. -/
def nearestBits (num den : Nat) : Nat :=
  if num = 0 then 0
  else
    let q := exponentOf num den
    let scaled := scaleByTwo num den (-q)
    let m := roundHalfEven scaled.1 scaled.2
    min (m + (q + 1074).toNat * twoTo 52) (2047 * twoTo 52)

def toFloat (negative : Bool) (significand : Nat) (exponent : Int) : Float :=
  let size : Int := (significand.log2 * 30103 / 100000 : Nat) + exponent
  let bits :=
    if significand = 0 || size < -400 then 0
    else if 400 < size then 2047 * twoTo 52
    else if 0 ≤ exponent then nearestBits (significand * tenTo exponent.toNat) 1
    else nearestBits significand (tenTo exponent.natAbs)
  Float.ofBits (UInt64.ofNat (if negative then bits + twoTo 63 else bits))

end Decimal
end ReleaseAudit
