import ReleaseAudit.Decimal.Binary64
import ReleaseAudit.Json

/-! The numbers of JSON values compared by what they are, not by how they are written. -/
namespace ReleaseAudit
namespace Json

def fractionOfFloat (x : Float) : Int × Nat :=
  let parts := Decimal.Binary.ofFloat x
  let scaled := Decimal.scaleByTwo parts.mantissa 1 parts.exponent
  (if parts.negative then -(scaled.1 : Int) else scaled.1, scaled.2)

def fraction? : Json → Option (Int × Nat)
  | .int i => some (i, 1)
  | .float x => some (fractionOfFloat x)
  | _ => none

def toFloat : Json → Float
  | .int i => Float.ofInt i
  | .float x => x
  | _ => 0

def isNumber (v : Json) : Bool := v.fraction?.isSome

/-- Whether both values are numbers of which the first is smaller. -/
def isLess (a b : Json) : Bool :=
  match a.fraction?, b.fraction? with
  | some x, some y => x.1 * y.2 < y.1 * x.2
  | _, _ => false

def isSameNumber (a b : Json) : Bool :=
  match a.fraction?, b.fraction? with
  | some x, some y => x.1 * y.2 = y.1 * x.2
  | _, _ => false

def isIntegral (v : Json) : Bool :=
  match v.fraction? with
  | some x => x.1 % x.2 = 0
  | none => false

mutual

/-- Whether two values are the same; numbers are compared by value. -/
def isSame : Json → Json → Bool
  | .null, .null => true
  | .bool a, .bool b => a == b
  | .str a, .str b => a == b
  | .arr xs, .arr ys => areSameItems xs ys
  | .obj fs, .obj gs => areSameFields fs gs
  | .int i, b => isSameNumber (.int i) b
  | .float x, b => isSameNumber (.float x) b
  | _, _ => false

def areSameItems : List Json → List Json → Bool
  | [], [] => true
  | x :: xs, y :: ys => isSame x y && areSameItems xs ys
  | _, _ => false

def areSameFields : List (String × Json) → List (String × Json) → Bool
  | [], [] => true
  | f :: fs, g :: gs => f.1 == g.1 && isSame f.2 g.2 && areSameFields fs gs
  | _, _ => false

end

mutual

/-- For each number in a value, whether it is the zero with a sign. -/
def signedZeros : Json → List Bool
  | .int _ => [false]
  | .float x => [x.toBits = 0x8000000000000000]
  | .arr items => signedZerosOfItems items
  | .obj fields => signedZerosOfFields fields
  | _ => []

def signedZerosOfItems : List Json → List Bool
  | [] => []
  | v :: vs => v.signedZeros ++ signedZerosOfItems vs

def signedZerosOfFields : List (String × Json) → List Bool
  | [] => []
  | f :: fs => f.2.signedZeros ++ signedZerosOfFields fs

end

/-- In lists with more items than this the two zeros are different. -/
def maxLooseItems : Nat := 15

def hasRepeatedItem (isLoose : Bool) : List Json → Bool
  | [] => false
  | v :: vs =>
    vs.any (fun w => v.isSame w && (isLoose || v.signedZeros = w.signedZeros)) ||
      hasRepeatedItem isLoose vs

def hasRepeated (vs : List Json) : Bool := hasRepeatedItem (vs.length ≤ maxLooseItems) vs

end Json
end ReleaseAudit
