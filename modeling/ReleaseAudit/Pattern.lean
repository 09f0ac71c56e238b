import ReleaseAudit.CharSet

/-! Regular expressions: what they are, and their size. Besides the regular ones there are patterns
that look ahead or behind, that repeat what a group took, and that are never taken back. -/
namespace ReleaseAudit

inductive Pattern.Edge where
  | start | finish | lineStart | lineEnd | lastLineEnd
  | wordEdge | notWordEdge | wordStart | wordEnd
  deriving DecidableEq, Repr

namespace Pattern.Edge

/-- Whether an edge depends on what words are, or on how many breaks end the text. -/
def isHard : Edge → Bool
  | start | finish | lineStart | lineEnd => false
  | _ => true

end Pattern.Edge

inductive Pattern where
  | nothing
  | one (set : CharSet)
  | edge (e : Pattern.Edge)
  | seq (first second : Pattern)
  | either (first second : Pattern)
  /-- At least `least` times, and at most `most` times if there is a bound: as often as possible if
  it is greedy, and else as rarely as possible. -/
  | times (least : Nat) (most : Option Nat) (isGreedy : Bool) (body : Pattern)
  /-- A group whose text can be asked for again. -/
  | group (number : Nat) (body : Pattern)
  /-- The text that a group took; `width` is how long that always is. -/
  | again (number : Nat) (ignoresCase : Bool) (width : Option Nat)
  /-- The group has begun. -/
  | begun (number : Nat)
  /-- What comes after the test where it fits, and else the other pattern. -/
  | branch (test yes no : Pattern)
  /-- Only the first way in which the body fits. -/
  | committed (body : Pattern)
  /-- The body fits here, or does not, without taking anything. -/
  | ahead (isNegated : Bool) (body : Pattern)
  /-- The body fits, or does not, from `width` characters before this place on. -/
  | behind (isNegated : Bool) (width : Nat) (body : Pattern)
  deriving DecidableEq, Repr

namespace Pattern

def askedGroups : Pattern → List Nat
  | again n _ _ | begun n => [n]
  | seq p q | either p q => p.askedGroups ++ q.askedGroups
  | branch p q r => p.askedGroups ++ q.askedGroups ++ r.askedGroups
  | times _ _ _ p | group _ p | committed p | ahead _ p | behind _ _ p => p.askedGroups
  | nothing | one _ | edge _ => []

def keepGroups (asked : List Nat) : Pattern → Pattern
  | group n p => if asked.contains n then group n (p.keepGroups asked) else p.keepGroups asked
  | seq p q => seq (p.keepGroups asked) (q.keepGroups asked)
  | either p q => either (p.keepGroups asked) (q.keepGroups asked)
  | branch p q r => branch (p.keepGroups asked) (q.keepGroups asked) (r.keepGroups asked)
  | times least most isGreedy p => times least most isGreedy (p.keepGroups asked)
  | committed p => committed (p.keepGroups asked)
  | ahead isNegated p => ahead isNegated (p.keepGroups asked)
  | behind isNegated width p => behind isNegated width (p.keepGroups asked)
  | p => p

def width? : Pattern → Option Nat
  | nothing | edge _ | begun _ | ahead _ _ | behind _ _ _ => some 0
  | one _ => some 1
  | again _ _ width => width
  | seq p q => do return (← p.width?) + (← q.width?)
  | either p q => do
    let n ← p.width?
    if n = (← q.width?) then return n else none
  | branch p q r => do
    let n ← r.width?
    if (← p.width?) + (← q.width?) = n then return n else none
  | times least most _ p => do
    let n ← p.width?
    if most = some least then return least * n else none
  | group _ p | committed p => p.width?

def alternatives : Pattern → List Pattern
  | either p q => p.alternatives ++ q.alternatives
  | p => [p]

/-- Whether a pattern is regular: it neither looks around nor asks for groups nor commits itself. -/
def isRegular : Pattern → Bool
  | nothing | one _ => true
  | edge e => !e.isHard
  | seq p q | either p q => p.isRegular && q.isRegular
  | times _ _ _ p => p.isRegular
  | group _ _ | again _ _ _ | begun _ | branch _ _ _ | committed _ => false
  | ahead _ _ | behind _ _ _ => false

/-- About how many steps a machine for the pattern has. -/
def cost : Pattern → Nat
  | nothing | edge _ | again _ _ _ | begun _ => 1
  | one set => if (set.runs.getLastD (0, 0)).2 < 0x80 then 1 else 9 + 2 * set.runs.length
  | seq p q | either p q => p.cost + q.cost + 1
  | branch p q r => p.cost + q.cost + r.cost + 2
  | times least most _ p => max least (most.getD (least + 1)) * (p.cost + 1)
  | group _ p | committed p | ahead _ p | behind _ _ p => p.cost + 2

/-- A regular pattern with more steps than this is refused. -/
def maxCost : Nat := 320000

def isOrdered : Pattern → Bool
  | times least most _ p => least ≤ most.getD least && p.isOrdered
  | seq p q | either p q => p.isOrdered && q.isOrdered
  | branch p q r => p.isOrdered && q.isOrdered && r.isOrdered
  | group _ p | committed p | ahead _ p | behind _ _ p => p.isOrdered
  | nothing | one _ | edge _ | again _ _ _ | begun _ => true

def isUnfit (p : Pattern) : Bool := maxCost < p.cost || !p.isOrdered

def lastLook? : Pattern → Option (Pattern × Pattern)
  | seq p (ahead false q) => some (p, q)
  | seq p q => q.lastLook?.map fun r => (seq p r.1, r.2)
  | _ => none

/-- The pattern with the look ahead at its end in place, as nothing comes after it. -/
def withoutLastLook (p : Pattern) : Pattern :=
  match p.lastLook? with
  | some (q, r) => seq q r
  | none => p

end Pattern
end ReleaseAudit
