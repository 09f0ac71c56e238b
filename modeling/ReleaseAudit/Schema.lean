import ReleaseAudit.Pattern
import ReleaseAudit.Schema.Content
import ReleaseAudit.Schema.Format

/-! Schemas for JSON documents: rules for values, and for what is inside these. -/
namespace ReleaseAudit
namespace Schema

/-- The names of types, in the order in which a message lists them. -/
inductive TypeName where
  | array | boolean | integer | null | number | object | string
  deriving DecidableEq, Repr

namespace TypeName

def all : List TypeName := [.array, .boolean, .integer, .null, .number, .object, .string]

def text : TypeName → String
  | .array => "array"
  | .boolean => "boolean"
  | .integer => "integer"
  | .null => "null"
  | .number => "number"
  | .object => "object"
  | .string => "string"

def ofText? (s : String) : Option TypeName := all.find? fun t => t.text = s

end TypeName

inductive Measure where
  | characters | items | properties
  deriving DecidableEq, Repr

inductive Bound where
  | minimum | maximum | exclusiveMinimum | exclusiveMaximum
  deriving DecidableEq, Repr

/-- Where a reference leads, seen from the resource `base`: to a part of the resource `target`.
Another resource may take its place, which for a recursive reference depends on the resource as a
whole. What it leads to is read with the keywords of the draft `offered`. -/
structure Reference where
  base : Uri
  target : Uri
  fragment : String
  isRecursive : Bool
  offered : Draft
  deriving DecidableEq, Repr

end Schema

mutual

inductive Schema where
  | constant (accepts : Bool)
  | rules (source : Json) (keywords : List Keyword)

inductive Keyword where
  | reference (r : Schema.Reference)
  /-- Rules for the properties of an object by name and by pattern; `others` holds for the rest, of
  which there may be none if it is absent. -/
  | closedProperties (known : Option (List (String × Schema)))
      (patterns : Option (List (Pattern × Schema))) (others : Option Schema)
  /-- All properties are welcome. -/
  | openProperties
  | properties (known : List (String × Schema))
  | patternProperties (patterns : List (Pattern × Schema))
  | propertyNames (each : Schema)
  /-- Rules for an object that has a property; what these judge counts as judged if they evaluate.
  -/
  | dependencies (isEvaluating : Bool) (table : List (String × Schema))
  | unevaluatedProperties (each : Schema)
  /-- A rule for each item but the first ones. -/
  | items (skipped : Nat) (each : Schema)
  | itemList (each : List Schema)
  /-- A rule for the items after a list, of which there may be none if it is absent. -/
  | furtherItems (skipped : Nat) (others : Option Schema)
  /-- How many items keep to a schema. -/
  | contains (least most : Option Nat) (each : Schema)
  | unevaluatedItems (each : Schema)
  | uniqueItems
  | allOf (parts : List Schema)
  | anyOf (parts : List Schema)
  | oneOf (parts : List Schema)
  | not (inner : Schema)
  | conditional (test : Schema) (yes no : Option Schema)
  /-- One of the types; a double counts as an integer only if `wholeDoubles` says so. -/
  | type (wholeDoubles : Bool) (names : List Schema.TypeName)
  | const (v : Json)
  | enum (options : List Json)
  | bound (b : Schema.Bound) (limit : Json)
  | size (m : Schema.Measure) (isUpper : Bool) (limit : Nat)
  | multipleOf (divisor : Float)
  | pattern (text : String) (p : Pattern)
  | format (f : Schema.Format)
  | content (c : Schema.Content)
  | required (names : List String)

end

namespace Schema

/-- The document that a schema was read from. -/
def source : Schema → Json
  | .constant accepts => .bool accepts
  | .rules source _ => source

def keywords : Schema → List Keyword
  | .constant _ => []
  | .rules _ keywords => keywords

def hasRules : Schema → Bool
  | .constant _ => false
  | .rules _ _ => true

def requiring (names : List String) : Schema := .rules .null [.required names]

end Schema
end ReleaseAudit
