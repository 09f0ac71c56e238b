import ReleaseAudit.Decimal.Digits
import ReleaseAudit.Decimal.Binary64

/-! Decimal texts read as doubles. -/
namespace ReleaseAudit
namespace Decimal

def readSign : List Char → Bool × List Char
  | '-' :: cs => (true, cs)
  | '+' :: cs => (false, cs)
  | cs => (false, cs)

def readFraction : List Char → List Char × List Char
  | '.' :: cs => (cs.takeWhile isDigit, cs.dropWhile isDigit)
  | cs => ([], cs)

def readExponent? : List Char → Option Int
  | [] => some 0
  | c :: cs =>
    let (negative, ds) := readSign cs
    if (c = 'e' || c = 'E') && ds ≠ [] && ds.all isDigit then
      some (if negative then -(ofDigits ds : Int) else ofDigits ds)
    else none

/-- A sign, digits around a point, at least one of them, and an exponent. -/
def readFloat? (cs : List Char) : Option Float := do
  let (negative, cs) := readSign cs
  let whole := cs.takeWhile isDigit
  let (fraction, rest) := readFraction (cs.dropWhile isDigit)
  if whole = [] && fraction = [] then none
  else return toFloat negative (ofDigits (whole ++ fraction)) ((← readExponent? rest) - fraction.length)

end Decimal
end ReleaseAudit
