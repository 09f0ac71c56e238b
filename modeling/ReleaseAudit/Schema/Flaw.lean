import ReleaseAudit.Json.Printer

/-! Why a document is no schema. -/
namespace ReleaseAudit
namespace Schema

inductive Flaw where
  | noSchema | badKeyword (name : String) | badPattern (text : String) | badAddress (text : String)
  | danglingReference (text : String) | unknownDraft
  deriving DecidableEq, Repr

def Flaw.message : Flaw → String
  | .noSchema => "a schema is an object or a boolean"
  | .badKeyword name => "bad value for the keyword " ++ Json.quote name
  | .badPattern text => Json.quote text ++ " is not a regular expression"
  | .badAddress text => Json.quote text ++ " is not an address"
  | .danglingReference text => "the reference " ++ Json.quote text ++ " leads nowhere"
  | .unknownDraft => "unknown version of the schema language"

/-- The value of an option, whose absence is a flaw. -/
def orFlaw {α : Type} (flaw : Flaw) : Option α → Except Flaw α
  | some a => .ok a
  | none => .error flaw

end Schema
end ReleaseAudit
