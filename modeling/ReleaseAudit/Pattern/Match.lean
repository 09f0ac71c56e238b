import ReleaseAudit.Pattern
import ReleaseAudit.Unicode.Property

/-! Where regular patterns fit. What a pattern does with a list of places is the list of the places
at which it may end, the ones it prefers first and each of them once; so no text is gone through
twice from the same place. -/
namespace ReleaseAudit
namespace Pattern

/-- A place in a text: what is before it, last character first, and what is after it. -/
structure Place where
  before : List Char
  after : List Char
  position : Nat
  deriving DecidableEq, Repr

namespace Place

def start (cs : List Char) : Place := ⟨[], cs, 0⟩

def next? (s : Place) : Option (Char × Place) :=
  match s.after with
  | c :: cs => some (c, ⟨c :: s.before, cs, s.position + 1⟩)
  | [] => none

def step? (set : CharSet) (s : Place) : Option Place := do
  let (c, t) ← s.next?
  if set.contains c then return t else none

def back? : Nat → Place → Option Place
  | 0, s => some s
  | n + 1, s =>
    match s.before with
    | c :: cs => back? n ⟨cs, c :: s.after, s.position - 1⟩
    | [] => none

def isSame (a b : Place) : Bool := a.position == b.position

def suffixes : List Char → Place → List Place
  | [], s => [s]
  | c :: cs, s =>
    s :: suffixes cs ⟨c :: s.before, cs, s.position + 1⟩

end Place

def isWord (c : Char) : Bool :=
  if c.toNat < 0x80 then c.isAlphanum || c = '_' else Unicode.wordCharacters.contains c

def isWordNext (cs : List Char) : Bool := (cs.head?.map isWord).getD false

def Edge.holds (e : Edge) (s : Place) : Bool :=
  match e with
  | .start => s.before = []
  | .finish => s.after = []
  | .lineStart => s.before = [] || s.before.head? = some '\n'
  | .lineEnd => s.after = [] || s.after.head? = some '\n'
  | .lastLineEnd => s.after.all (· = '\n')
  | .wordEdge => isWordNext s.before != isWordNext s.after
  | .notWordEdge => isWordNext s.before == isWordNext s.after
  | .wordStart => !isWordNext s.before && isWordNext s.after
  | .wordEnd => isWordNext s.before && !isWordNext s.after

def distinct : List Place → List Place
  | [] => []
  | s :: ss => s :: (distinct ss).filter fun t => !s.isSame t

/-- What a repetition has seen: the places from which it went on, with the number of rounds that
were left there, and the places at which it may end, last one first. -/
structure Exploration where
  seen : List (Place × Option Nat)
  found : List Place

namespace Exploration

/-- Whether at least as many rounds were left at this place before. -/
def covers (a : Exploration) (left : Option Nat) (s : Place) : Bool :=
  a.seen.any fun t => t.1.isSame s && match t.2, left with
    | none, _ => true
    | some n, some m => m ≤ n
    | some _, none => false

def mark (left : Option Nat) (s : Place) (a : Exploration) : Exploration :=
  { a with seen := (s, left) :: a.seen.filter fun t => !t.1.isSame s }

def add (s : Place) (a : Exploration) : Exploration :=
  if a.found.any s.isSame then a else { a with found := s :: a.found }

end Exploration

def pred (left : Option Nat) : Option Nat := left.map (· - 1)

/-- Goes on from a place, round after round, as long as there are rounds left. A round that takes
nothing is not gone on from. -/
def explore (step : Place → List Place) (isGreedy : Bool) (fuel : Nat) (left : Option Nat)
    (a : Exploration) (s : Place) : Exploration :=
  match fuel with
  | 0 => a.add s
  | fuel + 1 =>
    if a.covers left s then a
    else
      let a := a.mark left s
      let a := if isGreedy then a else a.add s
      let next := if left = some 0 then [] else (step s).filter fun t => t.position ≠ s.position
      let a := next.foldl (explore step isGreedy fuel (pred left)) a
      if isGreedy then a.add s else a

def iterate (step : List Place → List Place) : Nat → List Place → List Place
  | 0, ss => ss
  | n + 1, ss => if ss.isEmpty then [] else iterate step n (step ss)

/-- The places at which a regular pattern may end that starts at one of these places. -/
def ends : Pattern → List Place → List Place
  | nothing, ss => ss
  | one set, ss => ss.filterMap (Place.step? set)
  | edge e, ss => ss.filter e.holds
  | seq p q, ss => q.ends (p.ends ss)
  | either p q, ss => distinct (ss.flatMap fun s => p.ends [s] ++ q.ends [s])
  | times least most isGreedy p, ss =>
    let reached := iterate p.ends least ss
    let left := most.map (· - least)
    if left = some 0 then reached
    else
      let go a s :=
        explore (fun s => p.ends [s]) isGreedy (s.after.length + 1) left a s
      (reached.foldl go ⟨[], []⟩).found.reverse
  | group _ _, _ | again _ _ _, _ | begun _, _ | branch _ _ _, _ | committed _, _ | ahead _ _, _
  | behind _ _ _, _ => []

def isFound (p : Pattern) (s : String) : Bool :=
  !(p.ends (Place.suffixes s.toList (Place.start s.toList))).isEmpty

end Pattern
end ReleaseAudit
