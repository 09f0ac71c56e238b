import ReleaseAudit.Json.Number
import ReleaseAudit.Schema
import ReleaseAudit.Schema.Flaw

/-! The forms that the values of keywords have in each draft. A document with a value of another
form is no schema, also where no rule reaches that value. -/
namespace ReleaseAudit
namespace Schema

def maxCount : Nat := Decimal.twoTo 64 - 1

/-- A whole number that is not negative. Too large a one counts as the largest. -/
def countOf? (v : Json) : Option Nat :=
  match v.fraction? with
  | some x => if 0 ≤ x.1 && x.1 % x.2 = 0 then some (min (x.1 / x.2).toNat maxCount) else none
  | none => none

def textOf? : Json → Option String
  | .str s => some s
  | _ => none

def textsOf? : Json → Option (List String)
  | .arr vs => vs.mapM textOf?
  | _ => none

def typesOf? : Json → Option (List TypeName)
  | .str s => (TypeName.ofText? s).map ([·])
  | v => (textsOf? v).bind fun names => names.mapM TypeName.ofText?

inductive Form where
  | schema | flagOrSchema | schemas | schemaOrSchemas | schemaTable | patternTable | dependencies
  | text | uri | uriReference | identifier | anchor | regex | number | divisor | count | flag
  | flagTable | names | nameTable | types | list | options
  deriving DecidableEq, Repr

namespace Form

def always : List (String × Form) :=
  [("allOf", schemas), ("anyOf", schemas), ("definitions", schemaTable),
    ("dependencies", dependencies), ("description", text), ("format", text), ("maxItems", count),
    ("maxLength", count), ("maxProperties", count), ("maximum", number), ("minItems", count),
    ("minLength", count), ("minProperties", count), ("minimum", number), ("multipleOf", divisor),
    ("not", schema), ("oneOf", schemas), ("properties", schemaTable), ("required", names),
    ("title", text), ("type", types), ("uniqueItems", flag)]

def only4 : List (String × Form) :=
  [("$schema", text), ("additionalItems", flagOrSchema), ("additionalProperties", flagOrSchema),
    ("enum", options), ("exclusiveMaximum", flag), ("exclusiveMinimum", flag), ("id", text),
    ("items", schemaOrSchemas), ("pattern", regex), ("patternProperties", schemaTable)]

def since6 : List (String × Form) :=
  [("additionalProperties", schema), ("contains", schema), ("examples", list),
    ("exclusiveMaximum", number), ("exclusiveMinimum", number), ("propertyNames", schema)]

def only6And7 : List (String × Form) :=
  [("$id", uriReference), ("$ref", uriReference), ("$schema", uri), ("additionalItems", schema),
    ("items", schemaOrSchemas), ("pattern", regex)]

def only6 : List (String × Form) := [("enum", options), ("patternProperties", schemaTable)]

def since7 : List (String × Form) :=
  [("$comment", text), ("contentEncoding", text), ("contentMediaType", text), ("else", schema),
    ("enum", list), ("if", schema), ("readOnly", flag), ("then", schema), ("writeOnly", flag)]

def only7 : List (String × Form) := [("patternProperties", patternTable)]

def since2019 : List (String × Form) :=
  [("$anchor", anchor), ("$defs", schemaTable), ("$id", identifier), ("$recursiveRef", text),
    ("$ref", text), ("$schema", text), ("$vocabulary", flagTable), ("contentSchema", schema),
    ("dependentRequired", nameTable), ("dependentSchemas", schemaTable), ("deprecated", flag),
    ("maxContains", count), ("minContains", count), ("pattern", text),
    ("patternProperties", schemaTable), ("unevaluatedItems", schema),
    ("unevaluatedProperties", schema)]

def only2019 : List (String × Form) :=
  [("$recursiveAnchor", flag), ("additionalItems", schema), ("items", schemaOrSchemas)]

def only2020 : List (String × Form) :=
  [("$dynamicAnchor", anchor), ("$dynamicRef", text), ("$recursiveAnchor", anchor),
    ("items", schema), ("prefixItems", schemas)]

def table : Draft → List (String × Form)
  | .draft4 => always ++ only4
  | .draft6 => always ++ since6 ++ only6And7 ++ only6
  | .draft7 => always ++ since6 ++ only6And7 ++ since7 ++ only7
  | .draft2019 => always ++ since6 ++ since7 ++ since2019 ++ only2019
  | .draft2020 => always ++ since6 ++ since7 ++ since2019 ++ only2020

/-- An address whose fragment, if there is one, is empty. -/
def isIdentifier (s : String) : Bool :=
  let fragment := s.toList.dropWhile (· ≠ '#')
  fragment = [] || fragment = ['#']

def isAnchor (d : Draft) (s : String) : Bool :=
  let isModern := d = .draft2020
  match s.toList with
  | c :: cs =>
    (c.isAlpha || (isModern && c = '_')) &&
      cs.all fun c =>
        c.isAlphanum || c = '-' || c = '.' || c = '_' || (!isModern && c = ':')
  | [] => false

/-- A list of names without repetitions, which in the oldest draft is not empty. -/
def isNames (d : Draft) (v : Json) : Bool :=
  match textsOf? v with
  | some listed => listed.Nodup && (listed ≠ [] || d ≠ .draft4)
  | none => false

def isFlag : Json → Bool
  | .bool _ => true
  | _ => false

def isPattern (s : String) : Bool := Format.regex.accepts s

/-- Whether a value is of the given kind; `schema` judges the schemas in it. -/
def allows (d : Draft) (schema : Json → Bool) : Form → Json → Bool
  | .schema, v => schema v
  | .flagOrSchema, v => isFlag v || schema v
  | .schemas, .arr vs => !vs.isEmpty && vs.all schema
  | .schemaOrSchemas, .arr vs => !vs.isEmpty && vs.all schema
  | .schemaOrSchemas, v => schema v
  | .schemaTable, .obj fields => fields.all fun f => schema f.2
  | .patternTable, .obj fields => fields.all fun f => isPattern f.1 && schema f.2
  | .dependencies, .obj fields => fields.all fun f => schema f.2 || isNames d f.2
  | .text, .str _ => true
  | .uri, .str s => Format.uri.accepts s
  | .uriReference, .str s => Format.uriReference.accepts s
  | .identifier, .str s => isIdentifier s
  | .anchor, .str s => isAnchor d s
  | .regex, .str s => isPattern s
  | .number, v => v.isNumber
  | .divisor, v => Json.isLess (.int 0) v
  | .count, .float x => d ≠ .draft4 && (countOf? (.float x)).isSome
  | .count, v => (countOf? v).isSome
  | .flag, v => isFlag v
  | .flagTable, .obj fields => fields.all fun f => isFlag f.2
  | .names, v => isNames d v
  | .nameTable, .obj fields => fields.all fun f => isNames d f.2
  | .types, .str s => (TypeName.ofText? s).isSome
  | .types, v =>
    match typesOf? v with
    | some listed => listed ≠ [] && listed.Nodup
    | none => false
  | .list, .arr _ => true
  | .options, .arr vs => !vs.isEmpty && !Json.hasRepeated vs
  | _, _ => false

/-- The limits that mean something only beside another one in the oldest draft. -/
def companions : List (String × String) :=
  [("exclusiveMaximum", "maximum"), ("exclusiveMinimum", "minimum")]

def fits (d : Draft) (schema : Json → Bool) (fields : List (String × Json)) (f : String × Json) :
    Bool :=
  let hasForm := match (table d).lookup f.1 with
    | some form => form.allows d schema f.2
    | none => true
  let hasCompanion := match companions.lookup f.1 with
    | some other => d ≠ .draft4 || (Json.lookup other fields).isSome
    | none => true
  hasForm && hasCompanion

end Form

def misfit? (fuel : Nat) (d : Draft) (v : Json) : Option Flaw :=
  match fuel, v with
  | 0, _ => none
  | _ + 1, .bool _ => if d = .draft4 then some .noSchema else none
  | fuel + 1, .obj fields =>
    (fields.find? fun f => !Form.fits d (fun v => (misfit? fuel d v).isNone) fields f).map fun f =>
      .badKeyword f.1
  | _ + 1, _ => some .noSchema

end Schema
end ReleaseAudit
