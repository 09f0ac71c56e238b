import ReleaseAudit.Json.Reader
import ReleaseAudit.Text.Utf8

/-! What a text of a document can hold besides words: bytes in 64 signs, a JSON document, or both.
-/
namespace ReleaseAudit
namespace Schema

inductive Content where
  | base64 | json | base64Json
  deriving DecidableEq, Repr

inductive Content.Flaw where
  | badEncoding | badDocument | badBytes (index : Nat) (length : Option Nat)
  deriving DecidableEq, Repr

namespace Content

def sextet? (c : Char) : Option Nat :=
  if 'A' ≤ c ∧ c ≤ 'Z' then some (c.toNat - 65)
  else if 'a' ≤ c ∧ c ≤ 'z' then some (c.toNat - 71)
  else if '0' ≤ c ∧ c ≤ '9' then some (c.toNat + 4)
  else if c = '+' then some 62
  else if c = '/' then some 63
  else none

/-- The bytes of a text in groups of four signs. The last group is filled up, and no bit of it is
lost. -/
def decodeBase64? : List Char → Option (List UInt8)
  | [] => some []
  | [a, b, '=', '='] => do
    let m ← sextet? a
    let n ← sextet? b
    if n % 16 = 0 then return [(m * 4 + n / 16).toUInt8] else none
  | [a, b, c, '='] => do
    let l ← sextet? a
    let m ← sextet? b
    let n ← sextet? c
    if n % 4 = 0 then return [(l * 4 + m / 16).toUInt8, (m % 16 * 16 + n / 4).toUInt8] else none
  | a :: b :: c :: d :: cs => do
    let k ← sextet? a
    let l ← sextet? b
    let m ← sextet? c
    let n ← sextet? d
    return (k * 4 + l / 16).toUInt8 :: (l % 16 * 16 + m / 4).toUInt8 ::
      (m % 4 * 64 + n).toUInt8 :: (← decodeBase64? cs)
  | _ => none

def isDocument (s : String) : Bool := (Json.parse s).isOk

def flaw? (c : Content) (s : String) : Option Flaw :=
  match c with
  | base64 => if (decodeBase64? s.toList).isSome then none else some .badEncoding
  | json => if isDocument s then none else some .badDocument
  | base64Json =>
    match decodeBase64? s.toList with
    | none => some .badEncoding
    | some bytes =>
      match Text.Utf8.firstFlaw? 0 bytes with
      | some (index, length) => some (.badBytes index length)
      | none =>
        if isDocument ((Text.Utf8.decode? bytes).getD "") then none else some .badDocument

end Content
end Schema
end ReleaseAudit
