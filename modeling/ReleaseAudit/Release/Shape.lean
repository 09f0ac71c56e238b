import ReleaseAudit.Json
import ReleaseAudit.Decimal.Shortest
import ReleaseAudit.Release
import ReleaseAudit.Text.Quoted

/-! Release indexes read from documents. The whole document is given its shape before the first name
of a release candidate is read, and fields that no record asks for are passed over. -/
namespace ReleaseAudit
namespace Shape

inductive Found where
  | null | boolean (b : Bool) | integer (i : Int) | floating (text : String) | text (s : String)
  | sequence | map
  deriving DecidableEq, Repr

def Found.message : Found → String
  | .null => "null"
  | .boolean b => "boolean `" ++ (if b then "true" else "false") ++ "`"
  | .integer i => "integer `" ++ Decimal.intText i ++ "`"
  | .floating x => "floating point `" ++ x ++ "`"
  | .text s => "string " ++ Text.quoted s
  | .sequence => "sequence"
  | .map => "map"

/-- Why a value has not the shape that its place asks for. -/
inductive Flaw where
  | wrongType (found : Found) (expected : String)
  | missingField (name : String)
  | tooShort (length : Nat) (record : String) (fields : Nat)
  | tooLong (length : Nat)
  deriving DecidableEq, Repr

def Flaw.message : Flaw → String
  | .wrongType found expected => "invalid type: " ++ found.message ++ ", expected " ++ expected
  | .missingField name => "missing field `" ++ name ++ "`"
  | .tooShort n record fields =>
    "invalid length " ++ Decimal.natText n ++ ", expected struct " ++ record ++ " with " ++
      Decimal.natText fields ++ (if fields = 1 then " element" else " elements")
  | .tooLong n => "invalid length " ++ Decimal.natText n ++ ", expected fewer elements in array"

def Found.of : Json → Found
  | .null => .null
  | .bool b => .boolean b
  | .int i => .integer i
  | .float x => .floating (Decimal.documentNotation.write x)
  | .str s => .text s
  | .arr _ => .sequence
  | .obj _ => .map

def text : Json → Except Flaw String
  | .str s => .ok s
  | v => .error (.wrongType (.of v) "a string")

def sequence {α : Type} (item : Json → Except Flaw α) : Json → Except Flaw (List α)
  | .arr items => items.mapM item
  | v => .error (.wrongType (.of v) "a sequence")

def optional {α : Type} (read : Json → Except Flaw α) (name : String)
    (fields : List (String × Json)) : Except Flaw (Option α) :=
  match Json.lookup name fields with
  | some v => (read v).map some
  | none => .ok none

def required {α : Type} (name : String) : Option α → Except Flaw α
  | some a => .ok a
  | none => .error (.missingField name)

/-- A record with one field, written as an object or as an array of its fields. -/
def record₁ {α : Type} (record name : String) (read : Json → Except Flaw α) :
    Json → Except Flaw α
  | .obj fields => do required name (← optional read name fields)
  | .arr [] => .error (.tooShort 0 record 1)
  | .arr [v] => read v
  | .arr (v :: vs) => do
    let _ ← read v
    .error (.tooLong (vs.length + 1))
  | v => .error (.wrongType (.of v) ("struct " ++ record))

/-- A record with two fields, the first of which comes first in the order of keys. -/
def record₂ {α β : Type} (record first second : String) (readFirst : Json → Except Flaw α)
    (readSecond : Json → Except Flaw β) : Json → Except Flaw (α × β)
  | .obj fields => do
    let a ← optional readFirst first fields
    let b ← optional readSecond second fields
    return (← required first a, ← required second b)
  | .arr [] => .error (.tooShort 0 record 2)
  | .arr [v] => do
    let _ ← readFirst v
    .error (.tooShort 1 record 2)
  | .arr [v, w] => do return (← readFirst v, ← readSecond w)
  | .arr (v :: w :: vs) => do
    let _ ← readFirst v
    let _ ← readSecond w
    .error (.tooLong (vs.length + 2))
  | v => .error (.wrongType (.of v) ("struct " ++ record))

def version (v : Json) : Except Flaw Version :=
  (record₂ "Version" "name" "version" text text v).map fun p => ⟨p.1, p.2⟩

def release : Json → Except Flaw (String × List Version) :=
  record₂ "RawRelease" "rc_name" "versions" text (sequence version)

def index : Json → Except Flaw (List (String × List Version)) :=
  record₁ "RawIndex" "releases" (sequence release)

end Shape

inductive ReleaseIndex.Flaw where
  | misshapen (flaw : Shape.Flaw)
  | undatedRelease (rcName : String) (flaw : Timestamp.Flaw)
  deriving DecidableEq

namespace ReleaseIndex

def timestampFormat : String := "%Y-%m-%d_%H-%M"

def Flaw.message : Flaw → String
  | .misshapen flaw => flaw.message
  | .undatedRelease rcName flaw =>
    "RC name '" ++ rcName ++ "' does not carry a " ++ timestampFormat ++ " timestamp: " ++ flaw.message

def date (rcName : String) (versions : List Version) : Except Flaw Release :=
  match Release.ofName rcName versions with
  | .ok r => .ok r
  | .error flaw => .error (.undatedRelease rcName flaw)

/-- The release index of a document. -/
def ofDocument (document : Json) : Except Flaw ReleaseIndex :=
  match Shape.index document with
  | .error flaw => .error (.misshapen flaw)
  | .ok raw => (raw.mapM fun r => date r.1 r.2).map (⟨·⟩)

end ReleaseIndex
end ReleaseAudit
