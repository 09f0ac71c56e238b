import ReleaseAudit.Schema.Registry
import ReleaseAudit.Schema.Shipped

/-! The documents in which each draft describes its own schemas, as far as they hold rules. The
later drafts spread the description over several documents, one for each vocabulary. -/
namespace ReleaseAudit
namespace Schema
namespace Standard

def flagForm : Json := ofType "boolean"

def textForm : Json := ofType "string"

def numberForm : Json := ofType "number"

def refer (target : String) : Json := .obj [("$ref", .str target)]

def ofFormat (name : String) : Json := .obj [("format", .str name), ("type", .str "string")]

def ofPattern (pattern : String) : Json := .obj [("pattern", .str pattern), ("type", .str "string")]

def tableOf (each : Json) : Json := .obj [("additionalProperties", each), ("type", .str "object")]

def listOf (each : Json) : Json := .obj [("items", each), ("type", .str "array")]

def filledListOf (each : Json) : Json :=
  .obj [("items", each), ("minItems", .int 1), ("type", .str "array")]

def filledSetOf (each : Json) : Json :=
  .obj [("items", each), ("minItems", .int 1), ("type", .str "array"), ("uniqueItems", .bool true)]

def setOf (each : Json) : Json :=
  .obj [("items", each), ("type", .str "array"), ("uniqueItems", .bool true)]

def either (a b : Json) : Json := .obj [("anyOf", .arr [a, b])]

def filledOptions : Json :=
  .obj [("minItems", .int 1), ("type", .str "array"), ("uniqueItems", .bool true)]

def positiveNumber : Json := .obj [("exclusiveMinimum", .int 0), ("type", .str "number")]

def schemaTypes : Json := .arr [.str "object", .str "boolean"]

def patternTableOf (each : Json) : Json :=
  .obj [("additionalProperties", each), ("propertyNames", .obj [("format", .str "regex")]),
    ("type", .str "object")]

/-- The rules for limits, types and names; `shared` is the way to the definitions. -/
def limitFields (shared count : String) : List (String × Json) :=
  let least := refer (shared ++ count ++ "Default0")
  let most := refer (shared ++ count)
  let types := refer (shared ++ "simpleTypes")
  [("maxItems", most), ("maxLength", most), ("maxProperties", most), ("maximum", numberForm),
    ("minItems", least), ("minLength", least), ("minProperties", least), ("minimum", numberForm),
    ("pattern", ofFormat "regex"), ("required", refer (shared ++ "stringArray")),
    ("type", either types (filledSetOf types)), ("uniqueItems", flagForm)]

def limitDefinitions (count : String) (least names : Json) : List (String × Json) :=
  [(count, .obj [("minimum", .int 0), ("type", .str "integer")]), (count ++ "Default0", least),
    ("simpleTypes", .obj [("enum", .arr (["array", "boolean", "integer", "null", "number", "object",
      "string"].map .str))]),
    ("stringArray", names)]

def schemaFields (self list : Json) : List (String × Json) :=
  [("allOf", list), ("anyOf", list), ("not", self), ("oneOf", list), ("properties", tableOf self)]

/-! The drafts in one document. -/

def self : Json := refer "#"

def classicFields (count : String) : List (String × Json) :=
  schemaFields self (refer "#/definitions/schemaArray") ++ limitFields "#/definitions/" count ++
    [("definitions", tableOf self),
      ("dependencies", tableOf (either self (refer "#/definitions/stringArray"))),
      ("description", textForm), ("format", textForm),
      ("items", either self (refer "#/definitions/schemaArray")), ("title", textForm)]

def classicDefinitions (count : String) (names : Json) : Json :=
  let least : Json := .obj [("allOf", .arr [refer ("#/definitions/" ++ count), .obj []])]
  Json.ofFields (("schemaArray", filledListOf self) :: limitDefinitions count least names)

def draft4Address : String := "http://json-schema.org/draft-04/schema#"

def draft4Document : Json :=
  .obj [
    ("$schema", .str draft4Address),
    ("definitions", classicDefinitions "positiveInteger" (filledSetOf textForm)),
    ("dependencies", .obj [("exclusiveMaximum", .arr [.str "maximum"]),
      ("exclusiveMinimum", .arr [.str "minimum"])]),
    ("id", .str draft4Address),
    ("properties", Json.ofFields (classicFields "positiveInteger" ++
      [("$schema", textForm), ("additionalItems", either flagForm self),
        ("additionalProperties", either flagForm self), ("default", .obj []),
        ("enum", filledOptions), ("exclusiveMaximum", flagForm), ("exclusiveMinimum", flagForm),
        ("id", textForm),
        ("multipleOf", .obj [("exclusiveMinimum", .bool true), ("minimum", .int 0),
          ("type", .str "number")]),
        ("patternProperties", tableOf self)])),
    ("type", .str "object")]

/-- The rules of the sixth and the seventh draft, of which `anything` allows all values. -/
def middleFields (anything : Json) : List (String × Json) :=
  classicFields "nonNegativeInteger" ++
    [("$id", ofFormat "uri-reference"), ("$ref", ofFormat "uri-reference"),
      ("$schema", ofFormat "uri"), ("additionalItems", self), ("additionalProperties", self),
      ("const", anything), ("contains", self), ("default", anything),
      ("examples", listOf anything), ("exclusiveMaximum", numberForm),
      ("exclusiveMinimum", numberForm), ("multipleOf", positiveNumber), ("propertyNames", self)]

def middleDocument (address : String) (fields : List (String × Json)) : Json :=
  .obj [
    ("$id", .str address),
    ("$schema", .str address),
    ("definitions", classicDefinitions "nonNegativeInteger" (setOf textForm)),
    ("properties", Json.ofFields fields),
    ("type", schemaTypes)]

def draft6Document : Json :=
  middleDocument "http://json-schema.org/draft-06/schema#" (middleFields (.obj []) ++
    [("enum", filledOptions), ("patternProperties", tableOf self)])

def draft7Document : Json :=
  middleDocument "http://json-schema.org/draft-07/schema#" (middleFields (.bool true) ++
    [("$comment", textForm), ("contentEncoding", textForm), ("contentMediaType", textForm),
      ("else", self), ("enum", listOf (.bool true)), ("if", self),
      ("patternProperties", patternTableOf self), ("readOnly", flagForm), ("then", self),
      ("writeOnly", flagForm)])

/-! The drafts in several documents. -/

/-- What the documents of a draft have in common. -/
structure Family where
  address : String
  /-- The mark that lets a document take over the references to any schema. -/
  mark : String × Json
  /-- A reference to any schema. -/
  anySchema : Json

namespace Family

def draft2019 : Family :=
  ⟨"https://json-schema.org/draft/2019-09/", ("$recursiveAnchor", .bool true),
    .obj [("$recursiveRef", .str "#")]⟩

def draft2020 : Family :=
  ⟨"https://json-schema.org/draft/2020-12/", ("$dynamicAnchor", .str "meta"),
    .obj [("$dynamicRef", .str "#meta")]⟩

def document (f : Family) (name : String) (fields more : List (String × Json)) : Json :=
  Json.ofFields ([("$schema", .str (f.address ++ "schema")), ("$id", .str (f.address ++ name)),
    f.mark, ("type", schemaTypes), ("properties", Json.ofFields fields)] ++ more)

/-- The document that takes those of the vocabularies together. -/
def main (f : Family) (vocabularies : List String) (more : List (String × Json)) : Json :=
  f.document "schema"
    ([("definitions", tableOf f.anySchema),
      ("dependencies",
        tableOf (either f.anySchema (refer "meta/validation#/$defs/stringArray")))] ++ more)
    [("allOf", .arr (vocabularies.map fun v => refer ("meta/" ++ v)))]

def core (f : Family) (fields more : List (String × Json)) : Json :=
  f.document "meta/core" ([("$comment", textForm), ("$defs", tableOf f.anySchema)] ++ fields) more

def applicator (f : Family) (fields : List (String × Json)) : Json :=
  let s := f.anySchema
  f.document "meta/applicator"
    (schemaFields s (refer "#/$defs/schemaArray") ++
      [("additionalProperties", s), ("contains", s), ("dependentSchemas", tableOf s), ("else", s),
        ("if", s), ("patternProperties", patternTableOf s), ("propertyNames", s), ("then", s)] ++
      fields)
    [("$defs", .obj [("schemaArray", filledListOf s)])]

def validation (f : Family) : Json :=
  let count := refer "#/$defs/nonNegativeInteger"
  f.document "meta/validation"
    (limitFields "#/$defs/" "nonNegativeInteger" ++
      [("const", .bool true), ("dependentRequired", tableOf (refer "#/$defs/stringArray")),
        ("enum", listOf (.bool true)), ("exclusiveMaximum", numberForm),
        ("exclusiveMinimum", numberForm), ("maxContains", count), ("minContains", count),
        ("multipleOf", positiveNumber)])
    [("$defs", Json.ofFields (limitDefinitions "nonNegativeInteger" count (setOf textForm)))]

def remarks (f : Family) : Json :=
  f.document "meta/meta-data"
    [("default", .bool true), ("deprecated", flagForm), ("description", textForm),
      ("examples", listOf (.bool true)), ("readOnly", flagForm), ("title", textForm),
      ("writeOnly", flagForm)] []

def format (f : Family) (name : String) : Json := f.document name [("format", textForm)] []

def content (f : Family) : Json :=
  f.document "meta/content"
    [("contentEncoding", textForm), ("contentMediaType", textForm),
      ("contentSchema", f.anySchema)] []

end Family

def documents2019 : List Json :=
  let f := Family.draft2019
  let s := f.anySchema
  let link := ofFormat "uri-reference"
  [f.main ["core", "applicator", "validation", "meta-data", "format", "content"] [],
    f.core
      [("$anchor", ofPattern "^[A-Za-z][-A-Za-z0-9.:_]*$"),
        ("$id", .obj [("format", .str "uri-reference"), ("pattern", .str "^[^#]*#?$"),
          ("type", .str "string")]),
        ("$recursiveAnchor", flagForm), ("$recursiveRef", link), ("$ref", link),
        ("$schema", ofFormat "uri"),
        ("$vocabulary", .obj [("additionalProperties", flagForm), ("propertyNames", ofFormat "uri"),
          ("type", .str "object")])] [],
    f.applicator
      [("additionalItems", s), ("items", either s (refer "#/$defs/schemaArray")),
        ("unevaluatedItems", s), ("unevaluatedProperties", s)],
    f.validation, f.remarks, f.format "meta/format", f.content]

def documents2020 : List Json :=
  let f := Family.draft2020
  let s := f.anySchema
  let name := refer "#/$defs/anchorString"
  let link := refer "#/$defs/uriReferenceString"
  [f.main
      ["core", "applicator", "unevaluated", "validation", "meta-data", "format-annotation",
        "content"]
      [("$recursiveAnchor", refer "meta/core#/$defs/anchorString"),
        ("$recursiveRef", refer "meta/core#/$defs/uriReferenceString")],
    f.core
      [("$anchor", name), ("$dynamicAnchor", name), ("$dynamicRef", link),
        ("$id", .obj [("$ref", .str "#/$defs/uriReferenceString"), ("pattern", .str "^[^#]*#?$")]),
        ("$ref", link), ("$schema", refer "#/$defs/uriString"),
        ("$vocabulary", .obj [("additionalProperties", flagForm),
          ("propertyNames", refer "#/$defs/uriString"), ("type", .str "object")])]
      [("$defs", .obj [("anchorString", ofPattern "^[A-Za-z_][-A-Za-z0-9._]*$"),
        ("uriReferenceString", ofFormat "uri-reference"), ("uriString", ofFormat "uri")])],
    f.applicator [("items", s), ("prefixItems", refer "#/$defs/schemaArray")],
    f.document "meta/unevaluated" [("unevaluatedItems", s), ("unevaluatedProperties", s)] [],
    f.validation, f.remarks, f.format "meta/format-annotation", f.content]

def documents : List (Draft × Json) :=
  [(.draft4, draft4Document), (.draft6, draft6Document), (.draft7, draft7Document)] ++
    documents2019.map (Prod.mk .draft2019) ++ documents2020.map (Prod.mk .draft2020)

/-- What a document adds to a registry; those of the language have no flaws. -/
def known (d : Draft × Json) : Registry :=
  match Registry.ofDocument d.1 d.2 with
  | .ok (_, r, _) => r
  | .error _ => .empty

def registry : Registry := (documents.map known).foldl Registry.append .empty

end Standard
end Schema
end ReleaseAudit
