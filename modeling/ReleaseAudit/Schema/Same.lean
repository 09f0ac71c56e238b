import ReleaseAudit.Schema.Library

/-! Proofs that two schemas are the same, found by going through both. They let a schema that was
read be named by what it is. -/
namespace ReleaseAudit

structure Shown (p : Prop) : Type where
  proof : p

mutual

/-- A proof that two values are the same. None is looked for between doubles. -/
def Json.same? : (a b : Json) → Option (Shown (a = b))
  | .null, .null => some ⟨rfl⟩
  | .bool a, .bool b => if h : a = b then some ⟨congrArg _ h⟩ else none
  | .int a, .int b => if h : a = b then some ⟨congrArg _ h⟩ else none
  | .str a, .str b => if h : a = b then some ⟨congrArg _ h⟩ else none
  | .arr xs, .arr ys => (Json.sameItems? xs ys).map fun h => ⟨congrArg _ h.proof⟩
  | .obj fs, .obj gs => (Json.sameFields? fs gs).map fun h => ⟨congrArg _ h.proof⟩
  | _, _ => none

def Json.sameItems? : (xs ys : List Json) → Option (Shown (xs = ys))
  | [], [] => some ⟨rfl⟩
  | x :: xs, y :: ys => do
    let h ← Json.same? x y
    let k ← Json.sameItems? xs ys
    return ⟨by rw [h.proof, k.proof]⟩
  | _, _ => none

def Json.sameFields? : (fs gs : List (String × Json)) → Option (Shown (fs = gs))
  | [], [] => some ⟨rfl⟩
  | (f, v) :: fs, (g, w) :: gs => do
    let h ← Json.same? v w
    let k ← Json.sameFields? fs gs
    if e : f = g then return ⟨by rw [e, h.proof, k.proof]⟩ else none
  | _, _ => none

end

mutual

/-- A proof that two schemas are the same. It is looked for only where the schemas keep to rules
about types, sizes, patterns, properties, items and references. -/
def Schema.same? : (s t : Schema) → Option (Shown (s = t))
  | .constant a, .constant b => if h : a = b then some ⟨congrArg _ h⟩ else none
  | .rules v ks, .rules w ls => do
    let h ← v.same? w
    let k ← Schema.sameKeywords? ks ls
    return ⟨by rw [h.proof, k.proof]⟩
  | _, _ => none

def Schema.sameKeywords? : (ks ls : List Keyword) → Option (Shown (ks = ls))
  | [], [] => some ⟨rfl⟩
  | k :: ks, l :: ls => do
    let h ← Keyword.same? k l
    let i ← Schema.sameKeywords? ks ls
    return ⟨by rw [h.proof, i.proof]⟩
  | _, _ => none

def Schema.sameTable? : (ks ls : List (String × Schema)) → Option (Shown (ks = ls))
  | [], [] => some ⟨rfl⟩
  | (m, s) :: ks, (n, t) :: ls => do
    let h ← Schema.same? s t
    let k ← Schema.sameTable? ks ls
    if e : m = n then return ⟨by rw [e, h.proof, k.proof]⟩ else none
  | _, _ => none

def Keyword.same? : (k l : Keyword) → Option (Shown (k = l))
  | .reference r, .reference s => if h : r = s then some ⟨congrArg _ h⟩ else none
  | .properties ks, .properties ls => (Schema.sameTable? ks ls).map fun h => ⟨congrArg _ h.proof⟩
  | .items m s, .items n t => do
    let h ← Schema.same? s t
    if e : m = n then return ⟨by rw [e, h.proof]⟩ else none
  | .type a ms, .type b ns =>
    if h : a = b ∧ ms = ns then some ⟨by rw [h.1, h.2]⟩ else none
  | .size m a i, .size n b j =>
    if h : m = n ∧ a = b ∧ i = j then some ⟨by rw [h.1, h.2.1, h.2.2]⟩ else none
  | .pattern a p, .pattern b q => if h : a = b ∧ p = q then some ⟨by rw [h.1, h.2]⟩ else none
  | .required ms, .required ns => if h : ms = ns then some ⟨congrArg _ h⟩ else none
  | _, _ => none

end

namespace Schema

def Library.sameTargets? : (ts us : List (Reference × Target)) → Option (Shown (ts = us))
  | [], [] => some ⟨rfl⟩
  | (r, ⟨s, []⟩) :: ts, (q, ⟨t, []⟩) :: us => do
    let h ← Schema.same? s t
    let k ← Library.sameTargets? ts us
    if e : r = q then return ⟨by rw [e, h.proof, k.proof]⟩ else none
  | _, _ => none

end Schema
end ReleaseAudit
