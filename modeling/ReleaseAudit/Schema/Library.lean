import ReleaseAudit.Schema
import ReleaseAudit.Schema.Standard

/-! The schemas that references lead to. Which one it is may depend on the resources that led there.
-/
namespace ReleaseAudit
namespace Schema

/-- What a reference names: a place, and the places that take its place if references came through
their resources. -/
structure Goal where
  place : Place
  rivals : List (Uri × Place)

namespace Registry

def known (r : Registry) (u : Uri) : Registry :=
  if (r.resource? u).isSome then r else r.append Standard.registry

def isRecursive (p : Place) : Bool :=
  match p.content.field? "$recursiveAnchor" with
  | some (.bool b) => b
  | _ => false

/-- The recursive resources, if the given one is among them. -/
def recursiveRivals (r : Registry) (own : Place) : List (Uri × Place) :=
  if isRecursive own then
    (r.append Standard.registry).resources.filterMap fun p =>
      if isRecursive p then some (p.base, p) else none
  else []

def dynamicRivals (r : Registry) (a : Anchor) (target : Uri) : List (Uri × Place) :=
  if a.isDynamic then
    (r.append Standard.registry).anchors.filterMap fun b =>
      if b.isDynamic && b.name = a.name then
        ({ b.place with base := target } : Place).settled.toOption.map fun p => (b.place.base, p)
      else none
  else []

def goal? (r : Registry) (ref : Reference) : Option Goal := do
  let own ← (r.known ref.target).resource? ref.target
  if ref.isRecursive then return ⟨own, r.recursiveRivals own⟩
  else match ref.fragment.toList with
    | [] => return ⟨own, []⟩
    | '/' :: steps => return ⟨← own.pointed? ('/' :: steps), []⟩
    | _ =>
      let a ← (r.known ref.target).anchor? ref.target ref.fragment
      return ⟨a.place, r.dynamicRivals a ref.target⟩

end Registry

/-- A schema that references lead to, and those that may take its place. -/
structure Target where
  schema : Schema
  rivals : List (Uri × Schema)

def Target.size (t : Target) : Nat :=
  t.rivals.foldr (fun p n => p.2.source.size + n) t.schema.source.size

structure Library where
  targets : List (Reference × Target)

namespace Library

def empty : Library := ⟨[]⟩

def nameSame (r s : Reference) : Bool :=
  r.target = s.target && r.fragment = s.fragment && r.isRecursive = s.isRecursive

def meanSame (r s : Reference) : Bool := nameSame r s && r.offered = s.offered

def target? (l : Library) (r : Reference) : Option Target :=
  (l.targets.find? fun t => meanSame t.1 r).map (·.2)

def add (l : Library) (r : Reference) (t : Target) : Library := ⟨(r, t) :: l.targets⟩

def size (l : Library) : Nat :=
  l.targets.foldr (fun t n => t.2.size + n) 0

end Library

/-- The resources that references were followed in, from the last one on. -/
abbrev Trail := List Uri

namespace Library

def extend (trail : Trail) (r : Reference) (target : Uri) : Trail :=
  if trail.isEmpty || target ≠ r.base then r.base :: trail else trail

/-- The rival that takes the place of a recursive target: the last one reached without a gap. -/
def recursiveRival? (rivals : List (Uri × Schema)) (trail : Trail) : Option (Uri × Schema) :=
  let isRival := fun u => rivals.any fun p => p.1 = u
  (trail.takeWhile isRival).getLast?.bind fun u => rivals.find? fun p => p.1 = u

/-- The rival that takes the place of a dynamic target: the one furthest away. -/
def dynamicRival? (rivals : List (Uri × Schema)) (trail : Trail) : Option Schema :=
  trail.reverse.findSome? fun u => (rivals.find? fun p => p.1 = u).map (·.2)

def follow (l : Library) (trail : Trail) (r : Reference) : Option (Trail × Schema) :=
  (l.target? r).map fun t =>
    let own := extend trail r r.target
    if r.isRecursive then
      match recursiveRival? t.rivals trail with
      | some (u, s) => (extend trail r u, s)
      | none => (own, t.schema)
    else (own, (dynamicRival? t.rivals own).getD t.schema)

end Library
end Schema
end ReleaseAudit
