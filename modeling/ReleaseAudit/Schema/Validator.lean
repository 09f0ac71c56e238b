import ReleaseAudit.Schema.Judge
import ReleaseAudit.Schema.Reader

/-! Validators: schemas with all that their references lead to. -/
namespace ReleaseAudit
namespace Schema

structure Validator where
  root : Schema
  library : Library

namespace Validator

def draftOf (document : Json) : Except Flaw Draft :=
  orFlaw .unknownDraft (Draft.inside? .draft2020 document)

def unknownAddress? (registry : Registry) (addresses : List Uri) : Option Uri :=
  addresses.find? fun u => ((registry.known u).resource? u).isNone

/-- More than the documents of the language hold together. -/
def languageSize : Nat := 4096

/-- A bound for the depth of the schemas in a document and in those of the language, one after the
other as references lead from one to the next. -/
def maxDepth (document : Json) : Nat :=
  (document.size + languageSize) * (document.size + languageSize)

def ofJson (document : Json) : Except Flaw Validator := do
  let d ← draftOf document
  let (place, registry, outward) ← Registry.ofDocument d document
  match unknownAddress? registry outward, misfit? (document.depth + 1) d document with
  | some u, _ => .error (.danglingReference u.text)
  | none, some flaw => .error flaw
  | none, none =>
    let (root, library) ← place.read (maxDepth document) registry
    return ⟨root, library⟩

/-- A bound for the schemas that judge one value on a way without circles. -/
def size (val : Validator) : Nat :=
  (val.root.source.size + val.library.size) * (val.library.targets.length + 1)

def breaches (val : Validator) (document : Json) : List Breach :=
  Schema.breaches val.library ((val.size + 1) * (document.depth + 1)) [] val.root document

end Validator
end Schema
end ReleaseAudit
