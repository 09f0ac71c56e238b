import ReleaseAudit.Schema.Form
import ReleaseAudit.Schema.Library

/-! Schemas read from their places in documents. Where a reference is met for the first time, what
it leads to is read as well. -/
namespace ReleaseAudit
namespace Schema

/-- How far a reading has come: the references that it met, and the schemas that they lead to. -/
structure Reading where
  met : List Reference
  library : Library

abbrev Reader := StateT Reading (Except Flaw)

def Reference.ofText? (base : Uri) (offered : Draft) (text : String) : Option Reference := do
  let whole ← addressIn? base text
  match text.toList with
  | '#' :: cs => some ⟨base, base, String.ofList cs, false, offered⟩
  | cs =>
    let fragment := (cs.reverse.takeWhile (· ≠ '#')).reverse
    if cs.contains '#' then
      let target ← addressIn? base (String.ofList (cs.take (cs.length - fragment.length - 1)))
      return ⟨base, target, String.ofList fragment, false, offered⟩
    else return ⟨base, whole, "", false, offered⟩

/-- What a keyword is read with: its place, the draft whose keywords are on offer, what references
can lead to, the keywords beside it, and the readers of schemas inside it and at other places. -/
structure Context where
  place : Place
  offered : Draft
  registry : Registry
  fields : List (String × Json)
  nested : Json → Reader Schema
  entered : Draft → Place → Reader Schema

def patternOf (text : String) : Except Flaw (String × Pattern) :=
  orFlaw (.badPattern text) (Pattern.ofText? text)

def orBad {α : Type} (name : String) (a : Option α) : Except Flaw α := orFlaw (.badKeyword name) a

def distinctNames? (v : Json) : Option (List String) := do
  let names ← textsOf? v
  if names.Nodup then return names else none

namespace Context

def field? (c : Context) (name : String) : Option Json := Json.lookup name c.fields

def isSince (c : Context) (first : Draft) : Bool := c.place.draft.isSince first

def schemaList (c : Context) (name : String) : Json → Reader (List Schema)
  | .arr vs => vs.mapM c.nested
  | _ => throw (.badKeyword name)

def schemaTable (c : Context) (name : String) : Json → Reader (List (String × Schema))
  | .obj fields => fields.mapM fun f => do return (f.1, ← c.nested f.2)
  | _ => throw (.badKeyword name)

def patternTable (c : Context) (name : String) (v : Json) : Reader (List (Pattern × Schema)) := do
  (← c.schemaTable name v).mapM fun f => do return ((← patternOf f.1).2, f.2)

def schema? (c : Context) (name : String) : Reader (Option Schema) :=
  match c.field? name with
  | some v => do return some (← c.nested v)
  | none => return none

def count? (c : Context) (name : String) : Reader (Option Nat) :=
  match c.field? name with
  | some v => do return some (← orBad name (countOf? v))
  | none => return none

/-- Reads the schemas of a goal. A rival with a flaw is none. -/
def target (c : Context) (offered : Draft) (g : Goal) : Reader Target := do
  let own ← c.entered offered g.place
  let rivals ← g.rivals.filterMapM fun p =>
    tryCatch (do return some (p.1, ← c.entered offered p.2)) fun _ => return none
  return ⟨own, rivals⟩

/-- The rule that a keyword with a reference stands for, after its goal is read. -/
def refer (c : Context) (r : Reference) (g : Goal) : Reader (Option Keyword) := do
  if !(← get).met.any (Library.meanSame r) then
    modify fun s => { s with met := r :: s.met }
    let t ← c.target r.offered g
    modify fun s => { s with library := s.library.add r t }
  return some (.reference r)

/-- The rule that a keyword with a reference stands for. When the reference is met for the first
time, its goal says which keywords are on offer there. Later on a goal with the same keyword says
nothing, or the circle would have no end. -/
def referByName (c : Context) (name text : String) (r : Reference) : Reader (Option Keyword) := do
  let g ← orFlaw (.danglingReference r.fragment) (c.registry.goal? r)
  if (← get).met.any (Library.nameSame r) then
    let isCircle := (g.place.content.field? name).bind textOf? = some text
    if isCircle then return none else c.refer r g
  else c.refer { r with offered := (g.place.draft.inside? g.place.content).getD g.place.draft } g

def readReference (c : Context) (name : String) (v : Json) : Reader (Option Keyword) := do
  let text ← orBad name (textOf? v)
  c.referByName name text
    (← orFlaw (.badAddress text) (Reference.ofText? c.place.base c.offered text))

/-! Keywords for objects. -/

def isClosed (c : Context) : Bool :=
  match c.field? "additionalProperties" with
  | some (.bool false) => true
  | some (.obj _) => true
  | _ => false

def closedProperties (c : Context) (v : Json) : Reader Keyword := do
  let known ← match c.field? "properties" with
    | some table => do pure (some (← c.schemaTable "properties" table))
    | none => pure none
  let patterns ← match c.field? "patternProperties" with
    | some table => do pure (some (← c.patternTable "patternProperties" table))
    | none => pure none
  let others ← match v with
    | .bool false => pure none
    | v => do pure (some (← c.nested v))
  return .closedProperties known patterns others

def dependency (c : Context) (name : String) : Json → Reader Schema
  | .arr vs => do return .requiring (← orBad name (textsOf? (.arr vs)))
  | v => c.nested v

def dependencies (c : Context) (name : String) : Json → Reader (Option Keyword)
  | .obj fields => do
    let table ← fields.mapM fun f => do return (f.1, ← c.dependency name f.2)
    return some (.dependencies false table)
  | _ => throw (.badKeyword name)

def requiredTable (name : String) : Json → Reader (Option Keyword)
  | .obj fields => do
    let table ← fields.mapM fun f => do
      return (f.1, Schema.requiring (← orBad name (distinctNames? f.2)))
    return some (.dependencies false table)
  | _ => throw (.badKeyword name)

def readObjectKeyword (c : Context) (name : String) (v : Json) : Reader (Option Keyword) := do
  match name with
  | "additionalProperties" =>
    if c.isClosed then return some (← c.closedProperties v)
    else match v with
      | .bool _ => return some .openProperties
      | _ => throw (.badKeyword name)
  | "properties" =>
    if c.isClosed then return none else return some (.properties (← c.schemaTable name v))
  | "patternProperties" =>
    if c.isClosed then return none else return some (.patternProperties (← c.patternTable name v))
  | "propertyNames" =>
    if c.isSince .draft6 then return some (.propertyNames (← c.nested v)) else return none
  | "required" => return some (.required (← orBad name (textsOf? v)))
  | "dependencies" => c.dependencies name v
  | "dependentRequired" => if c.isSince .draft2019 then requiredTable name v else return none
  | "dependentSchemas" =>
    if c.isSince .draft2019 then return some (.dependencies true (← c.schemaTable name v))
    else return none
  | "unevaluatedProperties" =>
    if c.isSince .draft2019 then return some (.unevaluatedProperties (← c.nested v))
    else return none
  | _ => return none

/-! Keywords for arrays. -/

/-- The number of items that a list beside the rule for all items takes out, in any draft. -/
def listedItems (c : Context) : Nat :=
  match c.field? "prefixItems" with
  | some (.arr vs) => vs.length
  | _ => 0

/-- The rule for the items that a list leaves over. Beside a rule that allows no items it refuses
everything, arrays or not. -/
def furtherItems (c : Context) (v : Json) : Reader (Option Keyword) :=
  match c.field? "items", v with
  | some (.bool false), _ => return some (.allOf [.constant false])
  | some (.arr vs), .bool false => return some (.furtherItems vs.length none)
  | some (.arr vs), v => do return some (.furtherItems vs.length (some (← c.nested v)))
  | _, _ => return none

def containsRule (c : Context) (v : Json) : Reader (Option Keyword) := do
  if c.isSince .draft2019 then
    let least ← c.count? "minContains"
    let most ← c.count? "maxContains"
    return some (.contains least most (← c.nested v))
  else if c.isSince .draft6 then return some (.contains none none (← c.nested v))
  else return none

def readArrayKeyword (c : Context) (name : String) (v : Json) : Reader (Option Keyword) := do
  match name with
  | "items" =>
    match v with
    | .arr vs => return some (.itemList (← vs.mapM c.nested))
    | v => return some (.items c.listedItems (← c.nested v))
  | "prefixItems" =>
    if c.isSince .draft2020 then return some (.itemList (← c.schemaList name v)) else return none
  | "additionalItems" => if c.isSince .draft2020 then return none else c.furtherItems v
  | "contains" => c.containsRule v
  | "unevaluatedItems" =>
    if c.isSince .draft2019 then return some (.unevaluatedItems (← c.nested v)) else return none
  | "uniqueItems" =>
    match v with
    | .bool isUnique => return if isUnique then some .uniqueItems else none
    | _ => throw (.badKeyword name)
  | _ => return none

/-! Keywords for single values. -/

def sizeLimits : List (String × Measure × Bool) :=
  [("maxItems", .items, true), ("maxLength", .characters, true),
    ("maxProperties", .properties, true), ("minItems", .items, false),
    ("minLength", .characters, false), ("minProperties", .properties, false)]

def boundRule (c : Context) (name : String) (plain exclusive : Bound) (v : Json) :
    Reader (Option Keyword) := do
  let isExclusive := match Form.companions.find? fun p => p.2 = name with
    | some (flag, _) =>
      match c.field? flag with
      | some (.bool b) => b && !c.isSince .draft6
      | _ => false
    | none => false
  if v.isNumber then return some (.bound (if isExclusive then exclusive else plain) v)
  else throw (.badKeyword name)

/-- What a text has to hold, which is a mere remark since 2019. An encoding is read together with
the type of what is encoded. -/
def contentRule (c : Context) (name : String) (v : Json) : Reader (Option Keyword) := do
  let text ← orBad name (textOf? v)
  match name, c.field? "contentEncoding" with
  | "contentMediaType", none =>
    return if text = "application/json" then some (.content .json) else none
  | "contentMediaType", some encoding =>
    if text ≠ "application/json" then return none
    else
      let e ← orBad "contentEncoding" (textOf? encoding)
      return if e = "base64" then some (.content .base64Json) else none
  | _, _ =>
    return if text = "base64" && (c.field? "contentMediaType").isNone then some (.content .base64)
      else none

def formatRule (c : Context) (name : String) (v : Json) : Reader (Option Keyword) := do
  if c.isSince .draft2019 then return none
  else
    let text ← orBad name (textOf? v)
    return (Format.named? c.place.draft text).map .format

def readValueKeyword (c : Context) (name : String) (v : Json) : Reader (Option Keyword) := do
  match name with
  | "type" => return some (.type (c.isSince .draft6) (← orBad name (typesOf? v)))
  | "const" => return if c.isSince .draft6 then some (.const v) else none
  | "enum" =>
    match v with
    | .arr options => return some (.enum options)
    | _ => throw (.badKeyword name)
  | "minimum" => c.boundRule name .minimum .exclusiveMinimum v
  | "maximum" => c.boundRule name .maximum .exclusiveMaximum v
  | "exclusiveMinimum" =>
    if c.isSince .draft6 then c.boundRule name .exclusiveMinimum .exclusiveMinimum v
    else return none
  | "exclusiveMaximum" =>
    if c.isSince .draft6 then c.boundRule name .exclusiveMaximum .exclusiveMaximum v
    else return none
  | "multipleOf" =>
    if v.isNumber then return some (.multipleOf v.toFloat) else throw (.badKeyword name)
  | "pattern" =>
    let (text, p) ← patternOf (← orBad name (textOf? v))
    return some (.pattern text p)
  | "format" => c.formatRule name v
  | "contentEncoding" | "contentMediaType" =>
    if c.isSince .draft6 && !c.isSince .draft2019 then c.contentRule name v else return none
  | _ =>
    match sizeLimits.lookup name with
    | some (m, isUpper) => return some (.size m isUpper (← orBad name (countOf? v)))
    | none => return none

/-! Keywords that lead elsewhere or take schemas together. -/

/-- A test and what follows from it. A test without consequences is never run, so it may have flaws.
-/
def conditional (c : Context) (v : Json) : Reader (Option Keyword) :=
  let rule : Reader (Option Keyword) := do
    return some (.conditional (← c.nested v) (← c.schema? "then") (← c.schema? "else"))
  if (c.field? "then").isNone && (c.field? "else").isNone then tryCatch rule fun _ => pure none
  else rule

/-- Whether the draft on offer has a keyword of a schema that may keep to a later draft. -/
def isOffered (c : Context) (name : String) : Bool :=
  if !c.isSince .draft2019 || ["$ref", "$dynamicRef", "$recursiveRef"].contains name then true
  else if ["unevaluatedItems", "unevaluatedProperties"].contains name && c.isSince .draft2020 then
    c.offered = .draft2020
  else c.offered.isSince .draft2019

def keyword (c : Context) (name : String) (v : Json) : Reader (Option Keyword) := do
  match name with
  | "$ref" => c.readReference name v
  | "$dynamicRef" => if c.isSince .draft2020 then c.readReference name v else return none
  | "$recursiveRef" =>
    if c.place.draft = .draft2019 then
      c.referByName name "#" ⟨c.place.base, c.place.base, "", true, c.offered⟩
    else return none
  | "allOf" => return some (.allOf (← c.schemaList name v))
  | "anyOf" => return some (.anyOf (← c.schemaList name v))
  | "oneOf" => return some (.oneOf (← c.schemaList name v))
  | "not" => return some (.not (← c.nested v))
  | "if" => if c.isSince .draft7 then c.conditional v else return none
  | name =>
    match ← c.readObjectKeyword name v with
    | some k => return some k
    | none =>
      match ← c.readArrayKeyword name v with
      | some k => return some k
      | none => c.readValueKeyword name v

def readKeyword (c : Context) (name : String) (v : Json) : Reader (Option Keyword) :=
  if c.isOffered name then c.keyword name v else return none

end Context

/-- The fields of a schema that are read: until 2019 a reference hides the others. -/
def readFields (d : Draft) (fields : List (String × Json)) : List (String × Json) :=
  match Json.lookup "$ref" fields with
  | some target => if d.isSince .draft2019 then fields else [("$ref", target)]
  | none => fields

def Place.inner (p : Place) (v : Json) : Except Flaw Place :=
  Place.settled ⟨p.base, p.draft.inside v, v⟩

def read (fuel : Nat) (registry : Registry) (offered : Draft) (p : Place) : Reader Schema :=
  match fuel, p.content with
  | 0, _ => throw .noSchema
  | _ + 1, .bool accepts => return .constant accepts
  | fuel + 1, .obj fields => do
    let fields := readFields p.draft fields
    let nested := fun v => do read fuel registry offered (← p.inner v)
    let entered := fun own (q : Place) =>
      read fuel registry own { q with draft := q.draft.inside q.content }
    let c : Context := ⟨p, offered, registry, fields, nested, entered⟩
    let keywords ← fields.filterMapM fun f => c.readKeyword f.1 f.2
    return .rules p.content keywords
  | _ + 1, _ => throw .noSchema

def Place.read (fuel : Nat) (registry : Registry) (p : Place) : Except Flaw (Schema × Library) := do
  let (s, reading) ← (Schema.read fuel registry p.draft p).run ⟨[], .empty⟩
  return (s, reading.library)

end Schema
end ReleaseAudit
