import ReleaseAudit.Decimal.Shortest
import ReleaseAudit.Json.Printer
import ReleaseAudit.Schema

/-! The ways in which a value may break the rules of a schema, and their wording. -/
namespace ReleaseAudit
namespace Schema

inductive Breach where
  | refused (v : Json)
  | wrongType (v : Json) (names : List TypeName)
  | notConst (expected : Json)
  | notInEnum (v : Json) (options : List Json)
  | outOfBound (v : Json) (b : Bound) (limit : Json)
  | wrongSize (v : Json) (m : Measure) (isUpper : Bool) (limit : Nat)
  | notMultiple (v : Json) (divisor : Float)
  | noMatch (v : Json) (pattern : String)
  /-- The search for a pattern turned back too often. -/
  | searchGaveUp
  | notOfFormat (v : Json) (f : Format)
  | badContent (v : Json) (flaw : Content.Flaw)
  | missingProperty (name : String)
  | unexpectedProperties (names : List String)
  | unevaluatedProperties (names : List String)
  | noneContained (v : Json)
  | furtherItems (items : List Json)
  | unevaluatedItems (items : List Json)
  | repeatedItems (v : Json)
  | noneOf (v : Json) (keyword : String)
  | severalOf (v : Json)
  | forbidden (v : Json) (schema : Json)

def listedTypes (names : List TypeName) : String :=
  String.intercalate ", "
    ((TypeName.all.filter names.contains).map fun t => "\"" ++ t.text ++ "\"")

def maxShownOptions : Nat := 3

/-- Options with commas between them and a word before the last. Of more than three, two are shown.
-/
def listedOptions (options : List Json) : String :=
  let shown := options.map Json.compact
  if maxShownOptions < shown.length then
    String.intercalate ", " (shown.take 2) ++ " or " ++ Decimal.natText (shown.length - 2) ++
      " other candidates"
  else match shown.reverse with
    | last :: before :: rest => String.intercalate ", " (before :: rest).reverse ++ " or " ++ last
    | shown => String.join shown

def listedUnexpected (names : List String) : String :=
  "(" ++ String.intercalate ", " names ++
    (if names.length = 1 then " was unexpected)" else " were unexpected)")

def inQuotes (s : String) : String := "'" ++ s ++ "'"

def Bound.phrase : Bound → String
  | .minimum => "less than the minimum of "
  | .maximum => "greater than the maximum of "
  | .exclusiveMinimum => "less than or equal to the minimum of "
  | .exclusiveMaximum => "greater than or equal to the maximum of "

def Measure.phrase (m : Measure) (isUpper : Bool) (limit : Nat) : String :=
  let n := Decimal.natText limit
  match m with
  | .characters =>
    "is " ++ (if isUpper then "longer" else "shorter") ++ " than " ++ n ++
      (if limit = 1 then " character" else " characters")
  | .items =>
    "has " ++ (if isUpper then "more" else "less") ++ " than " ++ n ++
      (if limit = 1 then " item" else " items")
  | .properties =>
    "has " ++ (if isUpper then "more" else "less") ++ " than " ++ n ++
      (if limit = 1 then " property" else " properties")

def Content.Flaw.message (v : Json) : Content.Flaw → String
  | .badEncoding => v.compact ++ " is not compliant with \"base64\" content encoding"
  | .badDocument => v.compact ++ " is not compliant with \"application/json\" media type"
  | .badBytes index none =>
    "incomplete utf-8 byte sequence from index " ++ Decimal.natText index
  | .badBytes index (some length) =>
    "invalid utf-8 sequence of " ++ Decimal.natText length ++ " bytes from index " ++
      Decimal.natText index

def Format.text (f : Format) : String :=
  ((Format.all.find? fun g => g.2.2 = f).map (·.1)).getD ""

namespace Breach

def message : Breach → String
  | .refused v => "False schema does not allow " ++ v.compact
  | .wrongType v [t] => v.compact ++ " is not of type \"" ++ t.text ++ "\""
  | .wrongType v names => v.compact ++ " is not of types " ++ listedTypes names
  | .notConst expected => expected.compact ++ " was expected"
  | .notInEnum v options => v.compact ++ " is not one of " ++ listedOptions options
  | .outOfBound v b limit => v.compact ++ " is " ++ b.phrase ++ limit.compact
  | .wrongSize v m isUpper limit => v.compact ++ " " ++ m.phrase isUpper limit
  | .notMultiple v divisor =>
    v.compact ++ " is not a multiple of " ++ Decimal.plainNotation.write divisor
  | .noMatch v pattern => v.compact ++ " does not match \"" ++ pattern ++ "\""
  | .searchGaveUp => "Error executing regex: Max limit for backtracking count exceeded"
  | .notOfFormat v f => v.compact ++ " is not a \"" ++ f.text ++ "\""
  | .badContent v flaw => flaw.message v
  | .missingProperty name => Json.quote name ++ " is a required property"
  | .unexpectedProperties names =>
    "Additional properties are not allowed " ++ listedUnexpected (names.map inQuotes)
  | .unevaluatedProperties names =>
    "Unevaluated properties are not allowed " ++ listedUnexpected (names.map inQuotes)
  | .noneContained v => "None of " ++ v.compact ++ " are valid under the given schema"
  | .furtherItems items =>
    "Additional items are not allowed " ++ listedUnexpected (items.map Json.compact)
  | .unevaluatedItems items =>
    "Unevaluated items are not allowed " ++
      listedUnexpected (items.map fun v => inQuotes v.compact)
  | .repeatedItems v => v.compact ++ " has non-unique elements"
  | .noneOf v keyword =>
    v.compact ++ " is not valid under any of the schemas listed in the '" ++ keyword ++ "' keyword"
  | .severalOf v =>
    v.compact ++ " is valid under more than one of the schemas listed in the 'oneOf' keyword"
  | .forbidden v schema => schema.compact ++ " is not allowed for " ++ v.compact

end Breach
end Schema
end ReleaseAudit
