import ReleaseAudit.Schema.Draft
import ReleaseAudit.Schema.Flaw
import ReleaseAudit.Uri.Reader

/-! What a document offers to references: its resources by their addresses, and parts of these by
name or by the way to them. -/
namespace ReleaseAudit
namespace Schema

/-- A schema, the resource that it belongs to, and the draft that it keeps to. -/
structure Place where
  base : Uri
  draft : Draft
  content : Json

/-- A place with a name in its resource. Other resources may take a dynamic name over. -/
structure Anchor where
  name : String
  isDynamic : Bool
  place : Place

structure Registry where
  resources : List Place
  anchors : List Anchor

def addressIn? (base : Uri) (text : String) : Option Uri := do
  let r ← Uri.parse? false text
  return (← base.resolve? r).normalize

namespace Place

/-- The place as the resource that it is itself, if it has an address. -/
def settled (p : Place) : Except Flaw Place :=
  match p.draft.idOf? p.content with
  | some id => do return { p with base := ← orFlaw (.badAddress id) (addressIn? p.base id) }
  | none => .ok p

def anchors (p : Place) : List Anchor :=
  (p.draft.anchorsOf p.content).map fun a => ⟨a.1, a.2, p⟩

def nested (p : Place) : List Place :=
  (p.draft.nested p.content).map fun v => { p with content := v }

def languageAddresses : List String :=
  ["https://json-schema.org/draft/", "http://json-schema.org/draft-"]

/-- The resource that a schema refers to by an address, unless it is one of the language. -/
def outward? (p : Place) (keyword : String) : Except Flaw (Option Uri) :=
  match p.content.field? keyword with
  | some (.str text) =>
    if text.toList.head? = some '#' || p.base.scheme = some "urn".toList then return none
    else do
      let u ← orFlaw (.badAddress text) (addressIn? p.base text)
      if languageAddresses.any fun a => a.toList.isPrefixOf u.chars then return none
      else return some { u with fragment := none }
  | _ => return none

def outward (p : Place) : Except Flaw (List Uri) := do
  return (← ["$ref", "$schema"].mapM p.outward?).filterMap id

end Place

namespace Registry

def empty : Registry := ⟨[], []⟩

def resource? (r : Registry) (u : Uri) : Option Place := r.resources.find? fun p => p.base = u

def anchor? (r : Registry) (u : Uri) (name : String) : Option Anchor :=
  r.anchors.find? fun a => a.place.base = u && a.name = name

/-- The registry with a place and its names. Of two places with one address the later one counts. -/
def add (r : Registry) (p : Place) : Registry := ⟨p :: r.resources, p.anchors ++ r.anchors⟩

def append (r s : Registry) : Registry := ⟨r.resources ++ s.resources, r.anchors ++ s.anchors⟩

def gather (fuel : Nat) (r : Registry) (outward : List Uri) :
    List Place → Except Flaw (Registry × List Uri)
  | [] => .ok (r, outward)
  | p :: queue =>
    match fuel with
    | 0 => .ok (r, outward)
    | fuel + 1 => do
      let own ← p.settled
      let r := if (p.draft.idOf? p.content).isSome then r.add own
        else ⟨r.resources, own.anchors ++ r.anchors⟩
      gather fuel r ((← own.outward) ++ outward) (queue ++ own.nested)

def standardAddress : Uri := ⟨some "json-schema".toList, some [], ['/'], none, none⟩

def ofDocument (d : Draft) (v : Json) : Except Flaw (Place × Registry × List Uri) := do
  let root ← Place.settled ⟨standardAddress, d, v⟩
  return (root, ← gather (v.size + 1) ⟨[root], []⟩ [] [root])

end Registry

inductive Step where
  | key (name : String) | index
  deriving DecidableEq, Repr

def unescaped : List Char → List Char
  | '~' :: '1' :: cs => '/' :: unescaped cs
  | '~' :: '0' :: cs => '~' :: unescaped cs
  | c :: cs => c :: unescaped cs
  | [] => []

def index? (cs : List Char) : Option Nat :=
  let digits := match cs with
    | '+' :: rest => rest
    | cs => cs
  if digits ≠ [] && digits.all Decimal.isDigit then some (Decimal.ofDigits digits) else none

def child? (v : Json) (step : List Char) : Option (Step × Json) :=
  match v with
  | .obj fields =>
    let name := String.ofList (unescaped step)
    (Json.lookup name fields).map fun w => (.key name, w)
  | .arr items => ((index? step).bind fun n => items[n]?).map fun w => (.index, w)
  | _ => none

def leadsToSchema (d : Draft) (isObject : Bool) : List Step → Bool
  | [] => true
  | .index :: steps => leadsToSchema d isObject steps
  | .key name :: steps =>
    if d.mixedSchemas.contains name && isObject then true
    else if d.ownSchemas.contains name then leadsToSchema d isObject steps
    else if d.innerSchemas.contains name then
      match steps with
      | [] => false
      | _ :: steps => leadsToSchema d isObject steps
    else false

namespace Place

/-- The place after some steps from a schema. On the way every schema may change the address;
`taken` are the steps since the last change. -/
def walk (p : Place) (taken : List Step) : List (List Char) → Option Place
  | [] => some p
  | step :: steps => do
    let (crumb, v) ← child? p.content step
    let p := { p with content := v }
    let taken := taken ++ [crumb]
    if leadsToSchema p.draft v.isObject taken then
      let own ← p.settled.toOption
      own.walk (if own.base = p.base then taken else []) steps
    else p.walk taken steps

def pointed? (p : Place) (pointer : List Char) : Option Place := do
  p.walk [] ((← Uri.unescaped? (pointer.drop 1)).splitOn '/')

end Place
end Schema
end ReleaseAudit
