import ReleaseAudit.Json.Number
import ReleaseAudit.Pattern.Search
import ReleaseAudit.Schema.Breach
import ReleaseAudit.Schema.Library

/-! Judging values by schemas. All breaches are found, in the order of the rules; beside them stands
what of a value the rules have judged, which is what the rules for the rest of it ask. -/
namespace ReleaseAudit
namespace Schema

def hasType (wholeDoubles : Bool) (v : Json) : TypeName → Bool
  | .array => match v with
    | .arr _ => true
    | _ => false
  | .boolean => match v with
    | .bool _ => true
    | _ => false
  | .integer => match v with
    | .int _ => true
    | v => wholeDoubles && v.isIntegral
  | .null => match v with
    | .null => true
    | _ => false
  | .number => v.isNumber
  | .object => v.isObject
  | .string => match v with
    | .str _ => true
    | _ => false

def Bound.holds (b : Bound) (v limit : Json) : Bool :=
  match b with
  | .minimum => !v.isLess limit
  | .maximum => !limit.isLess v
  | .exclusiveMinimum => limit.isLess v
  | .exclusiveMaximum => v.isLess limit

def Measure.of? : Measure → Json → Option Nat
  | .characters, .str s => some s.toList.length
  | .items, .arr vs => some vs.length
  | .properties, .obj fs => some fs.length
  | _, _ => none

def roundingUnit : Float := Float.ofBits 0x3cb0000000000000

/-- Whether a value is the expected one; between numbers a rounding unit makes no difference. -/
def isExpected (v expected : Json) : Bool :=
  if v.isNumber && expected.isNumber then (v.toFloat - expected.toFloat).abs < roundingUnit
  else v.isSame expected

/-! Multiples. -/

/-- Whether one fraction is a whole multiple of another. -/
def dividesExactly (divisor x : Int × Nat) : Bool :=
  divisor.1 = 0 || x.1 * divisor.2 % (divisor.1 * x.2) = 0

def powerOf (fuel : Nat) (x : Float) (n : Nat) (found : Float) : Float :=
  match fuel with
  | 0 => found
  | fuel + 1 =>
    let found := if n % 2 = 1 then found * x else found
    if n / 2 = 0 then found else powerOf fuel (x * x) (n / 2) found

def powerOfTen (n : Nat) : Float := powerOf (n + 1) 10 n 1

/-- The decimal places that a double needs, counted from `n` on, and the double without them. -/
def shifted (fuel : Nat) (x : Float) (n : Nat) : Float × Nat :=
  let y := if n = 0 then x else x * powerOfTen n
  match fuel with
  | 0 => (y, n)
  | fuel + 1 => if roundingUnit ≤ (y.floor - y).abs then shifted fuel x (n + 1) else (y, n)

/-- The most decimal places that a double can need. -/
def maxPlaces : Nat := 400

def decimalOf (x : Float) : Int × Nat :=
  let (y, places) := shifted maxPlaces x 0
  let whole := Json.fractionOfFloat (if y < 0 then y.ceil else y.floor)
  (whole.1, whole.2 * Decimal.tenTo places)

/-- Whether a number is a multiple of a divisor. For a divisor with a fractional part both count as
the decimals that they are written as, and nothing below the divisor but zero is a multiple. -/
def isMultiple (v : Json) (divisor : Float) : Bool :=
  let x := v.toFloat
  if divisor.floor == divisor then
    dividesExactly (Json.fractionOfFloat divisor) (Json.fractionOfFloat x)
  else x == 0 || (!(x < divisor) && dividesExactly (decimalOf divisor) (decimalOf x))

inductive Part where
  | property (name : String) | item (index : Nat)
  deriving DecidableEq, Repr

/-- How a keyword finds out about parts of a value, and where references lead. -/
structure Judge where
  library : Library
  trail : Trail
  verdict : Trail → Schema → Json → List Breach
  judged : Trail → Schema → Json → List Part

namespace Judge

def check (j : Judge) (s : Schema) (v : Json) : List Breach := j.verdict j.trail s v

def accepts (j : Judge) (s : Schema) (v : Json) : Bool := (j.check s v).isEmpty

def parts (j : Judge) (s : Schema) (v : Json) : List Part := j.judged j.trail s v

def accepting (j : Judge) (schemas : List Schema) (v : Json) : List Schema :=
  schemas.filter fun s => j.accepts s v

/-! What the rules have judged. -/

def propertiesWhere (p : String × Json → Bool) (fields : List (String × Json)) : List Part :=
  (fields.filter p).map fun f => .property f.1

def itemsWhere (p : Json → Bool) (vs : List Json) : List Part :=
  (vs.zipIdx.filter fun f => p f.1).map fun f => .item f.2

def acceptsNamed (j : Judge) (known : List (String × Schema)) (f : String × Json) : Bool :=
  known.any fun k => k.1 = f.1 && j.accepts k.2 f.2

def isMatched (patterns : List (Pattern × Schema)) (f : String × Json) : Bool :=
  patterns.any fun p => p.1.fits f.1

/-- The schemas of a table that come into force with the properties of an object. -/
def triggered (table : List (String × Schema)) (fields : List (String × Json)) : List Schema :=
  (table.filter fun d => (Json.lookup d.1 fields).isSome).map (·.2)

def objectParts (j : Judge) (k : Keyword) (fields : List (String × Json)) : List Part :=
  match k with
  | .closedProperties known patterns others =>
    let isAccepted := fun f => j.acceptsNamed (known.getD []) f ||
      isMatched (patterns.getD []) f || (others.map fun s => j.accepts s f.2).getD false
    propertiesWhere isAccepted fields
  | .openProperties => propertiesWhere (fun _ => true) fields
  | .properties known => propertiesWhere (j.acceptsNamed known) fields
  | .patternProperties patterns => propertiesWhere (isMatched patterns) fields
  | .dependencies true table =>
    (triggered table fields).flatMap fun s => j.parts s (.obj fields)
  | .unevaluatedProperties each => propertiesWhere (fun f => j.accepts each f.2) fields
  | _ => []

def arrayParts (j : Judge) (k : Keyword) (vs : List Json) : List Part :=
  match k with
  | .items _ _ => itemsWhere (fun _ => true) vs
  | .furtherItems _ _ => itemsWhere (fun _ => true) vs
  | .itemList each => itemsWhere (fun _ => true) (vs.take each.length)
  | .contains _ _ each => itemsWhere (j.accepts each) vs
  | .unevaluatedItems each => itemsWhere (j.accepts each) vs
  | _ => []

def partsOfAll (j : Judge) (schemas : List Schema) (v : Json) : List Part :=
  schemas.flatMap fun s => j.parts s v

def partsOfOptional (j : Judge) (s : Option Schema) (v : Json) : List Part :=
  (s.map fun s => j.parts s v).getD []

/-- The parts that alternatives judge: of an object one by one, and of an array all together. -/
def partsOfAny (j : Judge) (schemas : List Schema) (v : Json) : List Part :=
  match v with
  | .arr _ => if schemas.all fun s => j.accepts s v then j.partsOfAll schemas v else []
  | v => j.partsOfAll (j.accepting schemas v) v

def partsOfOne (j : Judge) (schemas : List Schema) (v : Json) : List Part :=
  match v, j.accepting schemas v with
  | _, [] => []
  | .arr _, _ => j.partsOfAll schemas v
  | v, [s] => j.parts s v
  | _, _ => []

def commonParts (j : Judge) (k : Keyword) (v : Json) : List Part :=
  match k with
  | .reference r =>
    ((j.library.follow j.trail r).map fun goal => j.judged goal.1 goal.2 v).getD []
  | .allOf schemas =>
    let schemas := schemas.filter hasRules
    if schemas.all fun s => j.accepts s v then j.partsOfAll schemas v else []
  | .anyOf schemas => j.partsOfAny (schemas.filter hasRules) v
  | .oneOf schemas => j.partsOfOne (schemas.filter hasRules) v
  | .conditional test yes no =>
    if !test.hasRules then []
    else if j.accepts test v then j.parts test v ++ j.partsOfOptional yes v
    else j.partsOfOptional no v
  | _ => []

def partsOf (j : Judge) (k : Keyword) (v : Json) : List Part :=
  match v with
  | .obj fields => j.objectParts k fields ++ j.commonParts k v
  | .arr vs => j.arrayParts k vs ++ j.commonParts k v
  | _ => []

/-! What breaks the rules. -/

/-- What the rules say about one property, and whether there is any rule for it by name or by
pattern. -/
def property (j : Judge) (known : List (String × Schema)) (patterns : List (Pattern × Schema))
    (f : String × Json) : List Breach × Bool :=
  let matching := patterns.filter fun p => p.1.fits f.1
  let byPattern := matching.flatMap fun p => j.check p.2 f.2
  match known.lookup f.1 with
  | some s => (j.check s f.2 ++ byPattern, true)
  | none => (byPattern, !matching.isEmpty)

/-- The breaches of an object whose properties all need a rule. -/
def closed (j : Judge) (known : Option (List (String × Schema)))
    (patterns : Option (List (Pattern × Schema))) (others : Option Schema)
    (fields : List (String × Json)) : List Breach :=
  let judged := fields.map fun f => (f, j.property (known.getD []) (patterns.getD []) f)
  match others with
  | some s => judged.flatMap fun r => if r.2.2 then r.2.1 else r.2.1 ++ j.check s r.1.2
  | none =>
    if known.isNone && patterns.isNone then (fields.take 1).map fun f => .refused f.2
    else
      let unexpected := (judged.filter fun r => !r.2.2).map (·.1.1)
      judged.flatMap (·.2.1) ++
        if unexpected.isEmpty then [] else [.unexpectedProperties unexpected]

/-- The breaches of a rule for the names of properties. -/
def names (j : Judge) (each : Schema) (fields : List (String × Json)) : List Breach :=
  match each with
  | .constant false => if fields.isEmpty then [] else [.refused (.obj fields)]
  | each => fields.flatMap fun f => j.check each (.str f.1)

def unevaluatedProperties (judged : List Part) (fields : List (String × Json)) : List Breach :=
  let rest := (fields.filter fun f => !judged.contains (.property f.1)).map (·.1)
  if rest.isEmpty then [] else [.unevaluatedProperties rest]

/-- The breaches of a rule for objects; `judged` are the parts that all rules have judged. -/
def objectBreaches (j : Judge) (judged : Unit → List Part) (k : Keyword)
    (fields : List (String × Json)) : List Breach :=
  match k with
  | .closedProperties known patterns others => j.closed known patterns others fields
  | .properties known =>
    known.flatMap fun p => ((Json.lookup p.1 fields).map (j.check p.2)).getD []
  | .patternProperties patterns =>
    patterns.flatMap fun p =>
      (fields.filter fun f => p.1.fits f.1).flatMap fun f => j.check p.2 f.2
  | .propertyNames each => j.names each fields
  | .dependencies _ table =>
    (triggered table fields).flatMap fun s => j.check s (.obj fields)
  | .required names =>
    (names.filter fun n => (Json.lookup n fields).isNone).map .missingProperty
  | .unevaluatedProperties (.constant true) => []
  | .unevaluatedProperties _ => unevaluatedProperties (judged ()) fields
  | _ => []

/-- Whether as many items keep to a rule as it asks for: at least one if no other number is given.
-/
def isEnough (least most : Option Nat) (count : Nat) : Bool :=
  least.getD 1 ≤ count && (most.map fun n => decide (count ≤ n)).getD true

def unevaluatedItems (judged : List Part) (vs : List Json) : List Breach :=
  let rest := (vs.zipIdx.filter fun f => !judged.contains (.item f.2)).map (·.1)
  if rest.isEmpty then [] else [.unevaluatedItems rest]

def arrayBreaches (j : Judge) (judged : Unit → List Part) (k : Keyword) (vs : List Json) :
    List Breach :=
  match k with
  | .items skipped each => (vs.drop skipped).flatMap (j.check each)
  | .itemList each => (each.zip vs).flatMap fun p => j.check p.1 p.2
  | .furtherItems skipped (some each) => (vs.drop skipped).flatMap (j.check each)
  | .furtherItems skipped none =>
    if vs.length ≤ skipped then [] else [.furtherItems (vs.drop skipped)]
  | .contains least most each =>
    let count := (vs.filter (j.accepts each)).length
    if isEnough least most count then [] else [.noneContained (.arr vs)]
  | .unevaluatedItems (.constant true) => []
  | .unevaluatedItems _ => unevaluatedItems (judged ()) vs
  | .uniqueItems => if Json.hasRepeated vs then [.repeatedItems (.arr vs)] else []
  | _ => []

def exactlyOne (j : Judge) (schemas : List Schema) (v : Json) : List Breach :=
  match j.accepting schemas v with
  | [] => [.noneOf v "oneOf"]
  | [_] => []
  | _ => [.severalOf v]

def textBreaches (k : Keyword) (s : String) : List Breach :=
  match k with
  | .pattern text p =>
    match p.find s with
    | .fits => []
    | .misses => [.noMatch (.str s) text]
    | .gaveUp => [.searchGaveUp]
  | .format f => if f.accepts s then [] else [.notOfFormat (.str s) f]
  | .content c => ((c.flaw? s).map (.badContent (.str s))).toList
  | _ => []

def numberBreaches (k : Keyword) (v : Json) : List Breach :=
  match k with
  | .bound b limit => if b.holds v limit then [] else [.outOfBound v b limit]
  | .multipleOf d => if isMultiple v d then [] else [.notMultiple v d]
  | _ => []

def combinedBreaches (j : Judge) (k : Keyword) (v : Json) : List Breach :=
  match k with
  | .reference r =>
    ((j.library.follow j.trail r).map fun goal => j.verdict goal.1 goal.2 v).getD []
  | .allOf schemas => schemas.flatMap fun s => j.check s v
  | .anyOf schemas => if (j.accepting schemas v).isEmpty then [.noneOf v "anyOf"] else []
  | .oneOf schemas => j.exactlyOne schemas v
  | .not inner => if j.accepts inner v then [.forbidden v inner.source] else []
  | .conditional test yes no =>
    (((if j.accepts test v then yes else no)).map fun s => j.check s v).getD []
  | _ => []

def commonBreaches (j : Judge) (k : Keyword) (v : Json) : List Breach :=
  match k with
  | .type wholeDoubles names =>
    if names.any (hasType wholeDoubles v) then [] else [.wrongType v names]
  | .const expected => if isExpected v expected then [] else [.notConst expected]
  | .enum options => if options.any v.isSame then [] else [.notInEnum v options]
  | .size m isUpper limit =>
    match m.of? v with
    | some n =>
      if (if isUpper then n ≤ limit else limit ≤ n) then [] else [.wrongSize v m isUpper limit]
    | none => []
  | k => j.combinedBreaches k v

def breaches (j : Judge) (judged : Unit → List Part) (k : Keyword) (v : Json) : List Breach :=
  match v with
  | .obj fields => j.objectBreaches judged k fields ++ j.commonBreaches k v
  | .arr vs => j.arrayBreaches judged k vs ++ j.commonBreaches k v
  | .str s => textBreaches k s ++ j.commonBreaches k v
  | .int i => numberBreaches k (.int i) ++ j.commonBreaches k v
  | .float x => numberBreaches k (.float x) ++ j.commonBreaches k v
  | v => j.commonBreaches k v

end Judge

mutual

def breaches (library : Library) (fuel : Nat) (trail : Trail) (s : Schema) (v : Json) :
    List Breach :=
  match fuel with
  | 0 => []
  | fuel + 1 =>
    let j : Judge := ⟨library, trail, breaches library fuel, judged library fuel⟩
    match s with
    | .constant true => []
    | .constant false => [.refused v]
    | .rules _ keywords =>
      keywords.flatMap fun k => j.breaches (fun _ => keywords.flatMap fun k => j.partsOf k v) k v

def judged (library : Library) (fuel : Nat) (trail : Trail) (s : Schema) (v : Json) : List Part :=
  match fuel with
  | 0 => []
  | fuel + 1 =>
    let j : Judge := ⟨library, trail, breaches library fuel, judged library fuel⟩
    s.keywords.flatMap fun k => j.partsOf k v

end

end Schema
end ReleaseAudit
