import ReleaseAudit.Audit
import ReleaseAudit.Proofs.Keywords
import ReleaseAudit.Schema.Same
import ReleaseAudit.Schema.Shipped

/-! What the shipped schema says about a document: its validator written out, and the breaches of a
document level by level, from the index down to the names of versions. -/
namespace ReleaseAudit
namespace Schema
namespace Shipped

/-! The validator. -/

def digitSet : CharSet := ⟨[('0'.toNat, '9'.toNat)]⟩

def letter (c : Char) : Pattern := .one (.single c)

def digits (n : Nat) : Pattern := .times n (some n) true (.one digitSet)

def sequence : List Pattern → Pattern
  | [] => .nothing
  | [p] => p
  | p :: ps => .seq p (sequence ps)

def rcNameParts : List Pattern :=
  [letter 'r', letter 'c', letter '-', letter '-', digits 4, letter '-', digits 2, letter '-',
    digits 2, letter '_', digits 2, letter '-', digits 2]

def rcName : Pattern := sequence (.edge .start :: (rcNameParts ++ [.edge .finish]))

/-- A reference from the schema to a part of itself. -/
def inside (fragment : String) : Reference :=
  ⟨Registry.standardAddress, Registry.standardAddress, fragment, false, .draft7⟩

def refersTo (fragment : String) : Schema :=
  .rules (.obj [("$ref", .str ("#" ++ fragment))]) [.reference (inside fragment)]

def text : Schema := .rules nonEmptyText [.size .characters false 1, .type true [.string]]

def flag : Schema := .rules (ofType "boolean") [.type true [.boolean]]

def version : Schema :=
  .rules versionDocument
    [.properties [("name", text), ("release_notes_ready", flag), ("security_fix", flag),
      ("version", text)],
    .required ["name", "version"], .type true [.object]]

def rcNameText : Schema :=
  .rules (.obj [("pattern", .str rcNamePattern), ("type", .str "string")])
    [.pattern rcNamePattern rcName, .type true [.string]]

def versions : Schema :=
  .rules
    (.obj [("items", .obj [("$ref", .str "#/definitions/version")]), ("minItems", .int 1),
      ("type", .str "array")])
    [.items 0 (refersTo "/definitions/version"), .size .items false 1, .type true [.array]]

def release : Schema :=
  .rules releaseDocument
    [.properties [("rc_name", rcNameText), ("versions", versions)],
    .required ["rc_name", "versions"], .type true [.object]]

def releases : Schema :=
  .rules
    (.obj [("items", .obj [("$ref", .str "#/definitions/release")]), ("type", .str "array")])
    [.items 0 (refersTo "/definitions/release"), .type true [.array]]

def root : Schema :=
  .rules shippedDocument
    [.properties [("releases", releases)], .required ["releases"], .type true [.object]]

def library : Library :=
  ⟨[(inside "/definitions/release", ⟨release, []⟩), (inside "/definitions/version", ⟨version, []⟩)]⟩

/-- The validator of the shipped schema. -/
def validator : Validator := ⟨root, library⟩

/-- Whether the shipped schema is read, and as what is written out here. -/
def isWrittenOut : Bool :=
  match Validator.ofJson shippedDocument with
  | .ok val =>
    (val.root.same? root).isSome &&
      (Library.sameTargets? val.library.targets library.targets).isSome
  | .error _ => false

theorem isWrittenOut_eq_true : isWrittenOut = true := by decide +kernel

theorem ofJson_shippedDocument : Validator.ofJson shippedDocument = .ok validator := by
  have h := isWrittenOut_eq_true
  unfold isWrittenOut at h
  split at h
  · next val heq =>
    obtain ⟨hroot, htargets⟩ := Bool.and_eq_true_iff.mp h
    have hval : val = validator := by
      obtain ⟨valRoot, ⟨targets⟩⟩ := val
      have e₁ : valRoot = root := ((Schema.same? _ _).get hroot).proof
      have e₂ : targets = library.targets := ((Library.sameTargets? _ _).get htargets).proof
      rw [e₁, e₂, validator]
    rw [heq, hval]
  · cases h

/-! What breaks the rules, from the inside to the outside. -/

/-- The breaches of an object: those of the properties that it has, and those that it lacks. -/
def recordBreaches (judges : List (String × (Json → List Breach))) (names : List String) :
    Json → List Breach
  | .obj fields =>
    (judges.flatMap fun p => ((Json.lookup p.1 fields).map p.2).getD []) ++
      (names.filter fun n => (Json.lookup n fields).isNone).map .missingProperty
  | v => [.wrongType v [.object]]

def flagBreaches : Json → List Breach
  | .bool _ => []
  | v => [.wrongType v [.boolean]]

def textBreaches : Json → List Breach
  | .str s => if s = "" then [.wrongSize (.str s) .characters false 1] else []
  | v => [.wrongType v [.string]]

def versionBreaches : Json → List Breach :=
  recordBreaches
    [("name", textBreaches), ("release_notes_ready", flagBreaches), ("security_fix", flagBreaches),
      ("version", textBreaches)]
    ["name", "version"]

def versionsBreaches : Json → List Breach
  | .arr vs =>
    vs.flatMap versionBreaches ++
      if vs = [] then [.wrongSize (.arr vs) .items false 1] else []
  | v => [.wrongType v [.array]]

def rcNameBreaches : Json → List Breach
  | .str s => if rcName.isFound s then [] else [.noMatch (.str s) rcNamePattern]
  | v => [.wrongType v [.string]]

def releaseBreaches : Json → List Breach :=
  recordBreaches [("rc_name", rcNameBreaches), ("versions", versionsBreaches)]
    ["rc_name", "versions"]

def releasesBreaches : Json → List Breach
  | .arr vs => vs.flatMap releaseBreaches
  | v => [.wrongType v [.array]]

def indexBreaches : Json → List Breach :=
  recordBreaches [("releases", releasesBreaches)] ["releases"]

variable (fuel : Nat) (trail : Trail)

theorem breaches_record (source : Json) (known : List (String × Schema)) (names : List String) :
    Schema.breaches library (fuel + 1) trail
        (.rules source [.properties known, .required names, .type true [.object]]) =
      recordBreaches (known.map fun p => (p.1, Schema.breaches library fuel trail p.2)) names := by
  funext v
  obtain ⟨judged, h⟩ := breaches_rules library fuel trail source
    [.properties known, .required names, .type true [.object]] v
  rw [h]
  cases v <;>
    simp [Judge.breaches_properties, Judge.breaches_required, Judge.breaches_type, recordBreaches,
      hasType, Json.isObject, List.flatMap_map]

theorem breaches_refersTo {fragment : String} {s : Schema}
    (h : library.target? (inside fragment) = some ⟨s, []⟩) {judge : Json → List Breach}
    (hs : ∀ trail, Schema.breaches library fuel trail s = judge) :
    Schema.breaches library (fuel + 1) trail (refersTo fragment) = judge := by
  funext v
  obtain ⟨judged, hrules⟩ := breaches_rules library fuel trail
    (.obj [("$ref", .str ("#" ++ fragment))]) [.reference (inside fragment)] v
  obtain ⟨next, hnext⟩ := Library.follow_of_noRivals h trail
  rw [refersTo, hrules]
  simp [Judge.breaches_reference, hnext, hs]

theorem breaches_flag : Schema.breaches library (fuel + 1) trail flag = flagBreaches := by
  funext v
  obtain ⟨judged, h⟩ := breaches_rules library fuel trail (ofType "boolean")
    [.type true [.boolean]] v
  rw [flag, h]
  cases v <;> simp [Judge.breaches_type, hasType, flagBreaches]

theorem breaches_text : Schema.breaches library (fuel + 1) trail text = textBreaches := by
  funext v
  obtain ⟨judged, h⟩ := breaches_rules library fuel trail nonEmptyText
    [.size .characters false 1, .type true [.string]] v
  rw [text, h]
  have hlength : ∀ s : String, 1 ≤ s.toList.length ↔ s ≠ "" := fun s => by
    simp [Nat.one_le_iff_ne_zero]
  cases v <;>
    simp [Judge.breaches_type, Judge.breaches_size, Measure.of?, hasType, textBreaches, hlength]

theorem breaches_version :
    Schema.breaches library (fuel + 2) trail version = versionBreaches := by
  rw [version, breaches_record]
  simp [breaches_text, breaches_flag, versionBreaches]

theorem breaches_versions :
    Schema.breaches library (fuel + 4) trail versions = versionsBreaches := by
  funext v
  have hitem : Schema.breaches library (fuel + 3) trail (refersTo "/definitions/version") =
      versionBreaches := breaches_refersTo _ trail rfl (breaches_version fuel)
  obtain ⟨judged, h⟩ := breaches_rules library (fuel + 3) trail
    (.obj [("items", .obj [("$ref", .str "#/definitions/version")]), ("minItems", .int 1),
      ("type", .str "array")])
    [.items 0 (refersTo "/definitions/version"), .size .items false 1, .type true [.array]] v
  rw [versions, h]
  have hlength : ∀ vs : List Json, 1 ≤ vs.length ↔ vs ≠ [] := fun vs => by
    simp [Nat.one_le_iff_ne_zero]
  cases v <;>
    simp [Judge.breaches_items, Judge.breaches_type, Judge.breaches_size, Measure.of?, hasType,
      versionsBreaches, hlength, hitem]

theorem breaches_rcName :
    Schema.breaches library (fuel + 1) trail rcNameText = rcNameBreaches := by
  funext v
  obtain ⟨judged, h⟩ := breaches_rules library fuel trail
    (.obj [("pattern", .str rcNamePattern), ("type", .str "string")])
    [.pattern rcNamePattern rcName, .type true [.string]] v
  rw [rcNameText, h]
  cases v with
  | str s =>
    have hregular : rcName.isRegular = true := by decide
    by_cases hfound : rcName.isFound s <;>
      simp [Judge.breaches_pattern, Judge.breaches_type, hasType, rcNameBreaches, Pattern.find,
        hregular, hfound]
  | _ => simp [Judge.breaches_pattern, Judge.breaches_type, hasType, rcNameBreaches]

theorem breaches_release :
    Schema.breaches library (fuel + 5) trail release = releaseBreaches := by
  rw [release, breaches_record]
  simp [breaches_rcName, breaches_versions, releaseBreaches]

theorem breaches_releases :
    Schema.breaches library (fuel + 7) trail releases = releasesBreaches := by
  funext v
  have hitem : Schema.breaches library (fuel + 6) trail (refersTo "/definitions/release") =
      releaseBreaches := breaches_refersTo _ trail rfl (breaches_release fuel)
  obtain ⟨judged, h⟩ := breaches_rules library (fuel + 6) trail
    (.obj [("items", .obj [("$ref", .str "#/definitions/release")]), ("type", .str "array")])
    [.items 0 (refersTo "/definitions/release"), .type true [.array]] v
  rw [releases, h]
  cases v <;>
    simp [Judge.breaches_items, Judge.breaches_type, hasType, releasesBreaches, hitem]

theorem breaches_root : Schema.breaches library (fuel + 8) trail root = indexBreaches := by
  rw [root, breaches_record]
  simp [breaches_releases, indexBreaches]

/-- The shipped schema says of a document what is written out here. -/
theorem breaches_validator (document : Json) :
    validator.breaches document = indexBreaches document := by
  have hsize : validator.size = 219 := by decide +kernel
  have hfuel : (validator.size + 1) * (document.depth + 1) = 220 * document.depth + 212 + 8 := by
    rw [hsize]
    omega
  rw [Validator.breaches, hfuel]
  exact congrFun (breaches_root _ _) document

end Shipped
end Schema

theorem Audit.validate_shippedDocument (document : Json) :
    Audit.validate document Schema.shippedDocument =
      match Schema.Shipped.indexBreaches document with
      | [] => .ok ()
      | found => .error (.schemaViolation (found.map Schema.Breach.message)) := by
  rw [Audit.validate, Schema.Shipped.ofJson_shippedDocument]
  cases h : Schema.Shipped.indexBreaches document <;>
    simp only [Schema.Shipped.breaches_validator, h]

theorem Audit.validate_shippedDocument_eq_ok {document : Json} :
    Audit.validate document Schema.shippedDocument = .ok () ↔
      Schema.Shipped.indexBreaches document = [] := by
  rw [Audit.validate_shippedDocument]
  cases Schema.Shipped.indexBreaches document <;> simp

end ReleaseAudit
