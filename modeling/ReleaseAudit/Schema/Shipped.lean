import ReleaseAudit.Json.Printer

/-! The schema of release indexes. -/
namespace ReleaseAudit
namespace Schema

def rcNamePattern : String := "^rc--[0-9]\x7b4\x7d-[0-9]\x7b2\x7d-[0-9]\x7b2\x7d_[0-9]\x7b2\x7d-[0-9]\x7b2\x7d$"

def ofType (name : String) : Json := .obj [("type", .str name)]

def nonEmptyText : Json := .obj [("minLength", .int 1), ("type", .str "string")]

def versionDocument : Json :=
  .obj [
    ("properties", .obj [("name", nonEmptyText), ("release_notes_ready", ofType "boolean"),
      ("security_fix", ofType "boolean"), ("version", nonEmptyText)]),
    ("required", .arr [.str "name", .str "version"]),
    ("type", .str "object")]

def releaseDocument : Json :=
  .obj [
    ("properties", .obj [
      ("rc_name", .obj [("pattern", .str rcNamePattern), ("type", .str "string")]),
      ("versions", .obj [
        ("items", .obj [("$ref", .str "#/definitions/version")]),
        ("minItems", .int 1),
        ("type", .str "array")])]),
    ("required", .arr [.str "rc_name", .str "versions"]),
    ("type", .str "object")]

/-- The schema that comes with the program. -/
def shippedDocument : Json :=
  .obj [
    ("$schema", .str "http://json-schema.org/draft-07/schema#"),
    ("definitions", .obj [("release", releaseDocument), ("version", versionDocument)]),
    ("description",
      .str "Release candidates, newest first, and the component versions they ship"),
    ("properties", .obj [
      ("releases", .obj [
        ("items", .obj [("$ref", .str "#/definitions/release")]),
        ("type", .str "array")])]),
    ("required", .arr [.str "releases"]),
    ("title", .str "Release index"),
    ("type", .str "object")]

end Schema
end ReleaseAudit
