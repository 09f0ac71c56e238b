import ReleaseAudit.CharSet
import ReleaseAudit.Decimal.Digits

/-! Compact texts for sets of characters: the length of each gap and of the run after it, as numbers
between blanks. -/
namespace ReleaseAudit
namespace Unicode

def numbers (fuel : Nat) (cs : List Char) : List Nat :=
  match fuel with
  | 0 => []
  | fuel + 1 =>
    match cs.dropWhile fun c => !Decimal.isDigit c with
    | [] => []
    | cs =>
      Decimal.ofDigits (cs.takeWhile Decimal.isDigit) ::
        numbers fuel (cs.dropWhile Decimal.isDigit)

def numbersOf (text : String) : List Nat := numbers (text.length + 1) text.toList

/-- The runs that gaps and lengths describe, from a code point on. -/
def runsFrom (start : Nat) : List Nat → List (Nat × Nat)
  | gap :: length :: rest =>
    (start + gap, start + gap + length - 1) :: runsFrom (start + gap + length) rest
  | _ => []

def setOf (text : String) : CharSet := ⟨runsFrom 0 (numbersOf text)⟩

end Unicode
end ReleaseAudit
