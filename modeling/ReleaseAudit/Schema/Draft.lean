import ReleaseAudit.Json

/-! The versions of the schema language: how a schema says which one it keeps to, how it names
itself, and under which of its keywords there are further schemas. -/
namespace ReleaseAudit
namespace Schema

inductive Draft where
  | draft4 | draft6 | draft7 | draft2019 | draft2020
  deriving DecidableEq, Repr

namespace Draft

def rank : Draft → Nat
  | draft4 => 0
  | draft6 => 1
  | draft7 => 2
  | draft2019 => 3
  | draft2020 => 4

def isSince (d first : Draft) : Bool := first.rank ≤ d.rank

def addresses : List (String × Draft) :=
  [("http://json-schema.org/draft-04/schema", draft4),
    ("http://json-schema.org/draft-06/schema", draft6),
    ("http://json-schema.org/draft-07/schema", draft7),
    ("https://json-schema.org/draft/2019-09/schema", draft2019),
    ("https://json-schema.org/draft/2020-12/schema", draft2020)]

def withoutMarks (address : String) : String :=
  String.ofList (address.toList.reverse.dropWhile (· = '#')).reverse

/-- The draft of a schema inside a schema of the given one, unless it asks for one that is unknown.
-/
def inside? (d : Draft) (v : Json) : Option Draft :=
  match v.field? "$schema" with
  | some (.str address) => addresses.lookup (withoutMarks address)
  | _ => some d

def idKeyword (d : Draft) : String := if d = draft4 then "id" else "$id"

/-- The address that a schema gives itself. Until 2019 a mere fragment is no address, and a
reference hides it. -/
def idOf? (d : Draft) (v : Json) : Option String :=
  match v.field? d.idKeyword with
  | some (.str id) =>
    if !d.isSince draft2019 && ((v.field? "$ref").isSome || id.toList.head? = some '#') then none
    else some (withoutMarks id)
  | _ => none

/-- The names that a schema has in its resource, and whether other resources may take them over. -/
def anchorsOf (d : Draft) (v : Json) : List (String × Bool) :=
  if d.isSince draft2019 then
    let named := match v.field? "$anchor" with
      | some (.str name) => [(name, false)]
      | _ => []
    match v.field? "$dynamicAnchor" with
    | some (.str name) => if d = draft2020 then named ++ [(name, true)] else named
    | _ => named
  else match v.field? d.idKeyword with
    | some (.str id) => if id.toList.head? = some '#' then [((id.drop 1).toString, false)] else []
    | _ => []

/-- The draft of a schema inside a schema of the given one; an unknown draft counts as the last. -/
def inside (d : Draft) (v : Json) : Draft := (d.inside? v).getD draft2020

def ownSchemas (d : Draft) : List String :=
  ["additionalProperties", "not"] ++
    (if d = draft2020 then ["items"] else ["additionalItems"]) ++
    (if d.isSince draft6 then ["contains", "propertyNames"] else []) ++
    (if d.isSince draft7 then ["else", "if", "then"] else []) ++
    if d.isSince draft2019 then ["contentSchema", "unevaluatedItems", "unevaluatedProperties"]
    else []

def innerSchemas (d : Draft) : List String :=
  ["allOf", "anyOf", "definitions", "oneOf", "patternProperties", "properties"] ++
    (if d.isSince draft2019 then ["$defs", "dependentSchemas"] else []) ++
    if d = draft2020 then ["prefixItems"] else []

def mixedSchemas (d : Draft) : List String :=
  (if d = draft2020 then [] else ["items"]) ++
    if d.isSince draft2019 then [] else ["dependencies"]

def innerValues : Json → List Json
  | .arr vs => vs
  | .obj fields => fields.map (·.2)
  | _ => []

/-- The drafts that say under which keywords of a schema there are names for references: for the
oldest draft all of them. -/
def guides (d : Draft) : List Draft :=
  if d = draft4 then [draft4, draft6, draft7, draft2019, draft2020] else [d]

def nested (d : Draft) : Json → List Json
  | .obj fields => fields.flatMap fun f =>
    let isUnder := fun (keywords : Draft → List String) => d.guides.any fun g =>
      (keywords g).contains f.1
    if isUnder mixedSchemas && f.1 ≠ "dependencies" then
      match f.2 with
      | .arr vs => vs
      | v => [v]
    else if isUnder ownSchemas then [f.2]
    else if isUnder innerSchemas || isUnder mixedSchemas then innerValues f.2
    else []
  | _ => []

end Draft
end Schema
end ReleaseAudit
