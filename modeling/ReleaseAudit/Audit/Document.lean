import ReleaseAudit.Json.Reader
import ReleaseAudit.Release.Shape
import ReleaseAudit.Yaml.Value
import ReleaseAudit.Fault

/-! Documents and indexes read from texts, with the faults that bad ones give rise to. -/
namespace ReleaseAudit
namespace Audit

def readYaml (text : String) : Except Fault Json :=
  (Yaml.parse text).mapError fun flaw => .ofText ("YAML error: " ++ flaw.message)

def readJson (text : String) : Except Fault Json :=
  (Json.parse text).mapError fun flaw => .ofText ("JSON error: " ++ flaw.message)

def readIndex (document : Json) : Except Fault ReleaseIndex :=
  (ReleaseIndex.ofDocument document).mapError fun flaw => .malformedIndex flaw.message

def readRelease (rcName : String) (versions : List Version) : Except Fault Release :=
  (ReleaseIndex.date rcName versions).mapError fun flaw => .malformedIndex flaw.message

def readTimestamp (rcName : String) : Except Fault Timestamp :=
  (Timestamp.ofRcName rcName).mapError fun flaw =>
    .malformedIndex (ReleaseIndex.Flaw.undatedRelease rcName flaw).message

/-- A release is dated by its name, and there is nothing else that can be wrong with it. -/
theorem readRelease_eq (rcName : String) (versions : List Version) :
    readRelease rcName versions = (readTimestamp rcName).map fun t => ⟨rcName, t, versions⟩ := by
  unfold readRelease ReleaseIndex.date Release.ofName readTimestamp
  cases Timestamp.ofRcName rcName <;> rfl

end Audit
end ReleaseAudit
