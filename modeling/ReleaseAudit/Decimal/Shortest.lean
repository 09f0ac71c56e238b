import ReleaseAudit.Decimal.Digits
import ReleaseAudit.Decimal.Binary64

/-! The shortest decimal that reads back as a given double, and its text in a chosen notation. -/
namespace ReleaseAudit
namespace Decimal

structure Scientific where
  digits : Nat
  exponent : Int
  deriving DecidableEq, Repr

def scaleByTen (num den : Nat) (k : Int) : Nat × Nat :=
  if 0 ≤ k then (num * tenTo k.toNat, den) else (num, den * tenTo k.natAbs)

/-- The fractions that read back as `m * 2 ^ q` lie between `low` and `high`, as quarters of
`2 ^ q`. The ends belong to them when `m` is even. -/
structure Interval where
  low : Nat
  middle : Nat
  high : Nat
  exponent : Int
  closed : Bool
  deriving DecidableEq, Repr

def Binary.interval (x : Binary) : Interval where
  low := if x.mantissa = twoTo 52 && -1074 < x.exponent then 4 * x.mantissa - 1 else 4 * x.mantissa - 2
  middle := 4 * x.mantissa
  high := 4 * x.mantissa + 2
  exponent := x.exponent - 2
  closed := x.mantissa % 2 = 0

def Interval.holds (i : Interval) (d : Nat) (k : Int) : Bool :=
  let ten := scaleByTen d 1 k
  let two := scaleByTwo 1 1 i.exponent
  let point := ten.1 * two.2
  let unit := two.1 * ten.2
  if i.closed then i.low * unit ≤ point && point ≤ i.high * unit
  else i.low * unit < point && point < i.high * unit

/-- The neighbour of the middle on the grid `10 ^ k` that reads back; of two, the nearer one, and of
two equally near ones the even one. -/
def Interval.onGrid (i : Interval) (k : Int) : Option Nat :=
  let two := scaleByTwo i.middle 1 i.exponent
  let value := scaleByTen two.1 two.2 (-k)
  let below := value.1 / value.2
  match i.holds below k && below ≠ 0, i.holds (below + 1) k with
  | true, true => some (roundHalfEven value.1 value.2)
  | true, false => some below
  | false, true => some (below + 1)
  | false, false => none

def Interval.firstOnGrids (i : Interval) : List Int → Option Scientific
  | [] => none
  | k :: ks =>
    match i.onGrid k with
    | some d => some ⟨d, k⟩
    | none => i.firstOnGrids ks

def leadingExponent (num den : Nat) : Int :=
  let guess : Int := ((digits num).length : Int) - (digits den).length
  let scaled := scaleByTen num den (-guess)
  if scaled.2 ≤ scaled.1 then guess else guess - 1

def Scientific.strip (fuel : Nat) (s : Scientific) : Scientific :=
  match fuel with
  | 0 => s
  | fuel + 1 => if s.digits ≠ 0 && s.digits % 10 = 0 then strip fuel ⟨s.digits / 10, s.exponent + 1⟩ else s

/-- The shortest decimal that reads back as the magnitude of a finite double. -/
def Binary.shortest (x : Binary) : Scientific :=
  if x.mantissa = 0 then ⟨0, 0⟩
  else
    let value := scaleByTwo x.mantissa 1 x.exponent
    let top := leadingExponent value.1 value.2
    match x.interval.firstOnGrids ((List.range 17).map fun (n : Nat) => top - (n : Int)) with
    | some s => s.strip 20
    | none => ⟨x.mantissa, x.exponent⟩

structure Notation where
  /-- The decimal exponents written without an exponent; all of them if absent. -/
  positional : Option (Int × Int)
  /-- Whether an integral value still shows a point and a zero. -/
  point : Bool
  deriving DecidableEq, Repr

def zeros (n : Nat) : List Char := List.replicate n '0'

def positionalText (s : Scientific) (point : Bool) : List Char :=
  let ds := digits s.digits
  let tail := if point then ['.', '0'] else []
  if 0 ≤ s.exponent then ds ++ zeros s.exponent.toNat ++ tail
  else
    let places := s.exponent.natAbs
    if places < ds.length then ds.take (ds.length - places) ++ '.' :: ds.drop (ds.length - places)
    else '0' :: '.' :: zeros (places - ds.length) ++ ds

def scientificText (s : Scientific) : List Char :=
  let ds := digits s.digits
  let e : Int := s.exponent + (ds.length : Int) - 1
  let fraction := if ds.length ≤ 1 then [] else '.' :: ds.drop 1
  ds.take 1 ++ fraction ++ 'e' :: (if e < 0 then '-' else '+') :: digits e.natAbs

def Notation.write (style : Notation) (x : Float) : String :=
  let parts := Binary.ofFloat x
  let s := parts.shortest
  let e : Int := s.exponent + ((digits s.digits).length : Int) - 1
  let isPositional : Bool := match style.positional with
    | none => true
    | some range => range.1 ≤ e && e ≤ range.2
  let body := if isPositional then positionalText s style.point else scientificText s
  String.ofList (if parts.negative then '-' :: body else body)

/-- Exponents from -5 to 15 are written out, and an integral value keeps its point. -/
def documentNotation : Notation := ⟨some (-5, 15), true⟩

/-- Nothing but the digits and, where it is needed, the point. -/
def plainNotation : Notation := ⟨none, false⟩

/-- Never an exponent, always a point. -/
def pointedNotation : Notation := ⟨none, true⟩

end Decimal
end ReleaseAudit
