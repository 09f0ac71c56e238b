import ReleaseAudit.Pattern.Match
import ReleaseAudit.Unicode.Folding

/-! The search for patterns that are not regular. It goes one way at a time and keeps the other ways
on a stack; when it has turned back too often it gives up. Regular parts whose other ways do not
matter are matched at once. -/
namespace ReleaseAudit
namespace Pattern

/-! What is matched at once. -/

def isPlain (p : Pattern) : Bool := p.isRegular && p.width?.isSome

/-- Whether the ways that a pattern has do not matter: those of a plain one never do, and those of
other regular ones only if something comes after them. -/
def isSettled (isLast : Bool) (p : Pattern) : Bool := p.isRegular && (isLast || p.isPlain)

def areSettled (isLast : Bool) : Pattern → Bool
  | seq p q => p.isSettled isLast && q.areSettled isLast
  | p => p.isSettled isLast

mutual

/-- The pattern in which the parts that are matched at once are marked as committed. -/
def marked (isLast : Bool) : Pattern → Pattern
  | seq p q =>
    if (seq p q).areSettled isLast then committed (seq p q)
    else if p.isPlain then seq (committed p) (q.markedAfter isLast true)
    else seq (p.marked false) (q.markedAfter isLast false)
  | either p q => if isLast && p.isRegular && q.isRegular then committed (either p q)
    else either (p.marked isLast) (q.marked isLast)
  | times least most isGreedy p =>
    if isLast && p.isRegular then committed (times least most isGreedy p)
    else times least most isGreedy (p.marked (isLast && least = 0 && most = some 1))
  | group n p => group n (p.marked isLast)
  | branch p q r => branch (p.marked isLast) (q.marked isLast) (r.marked isLast)
  | committed p => if p.isRegular then committed p else committed (p.marked true)
  | ahead isNegated p => ahead isNegated (p.marked true)
  | behind isNegated width p => behind isNegated width (p.marked true)
  | p => p

def markedAfter (isLast isAfterPlain : Bool) : Pattern → Pattern
  | seq p q =>
    if (seq p q).areSettled isLast then committed (seq p q)
    else if isAfterPlain && p.isPlain then seq (committed p) (q.markedAfter isLast true)
    else seq (p.marked false) (q.markedAfter isLast false)
  | p => if p.isSettled isLast then committed p else p.marked false

end

/-- Whether a part that is matched at once is unfit for that. -/
def hasUnfit : Pattern → Bool
  | committed p => if p.isRegular then p.isUnfit else p.hasUnfit
  | seq p q | either p q => p.hasUnfit || q.hasUnfit
  | branch p q r => p.hasUnfit || q.hasUnfit || r.hasUnfit
  | times _ _ _ p | group _ p | ahead _ p | behind _ _ p => p.hasUnfit
  | nothing | one _ | edge _ | again _ _ _ | begun _ => false

def isAnchored : Pattern → Bool
  | seq p _ => p = edge .start
  | p => p = edge .start

/-! The search. -/

/-- What a group took: where it began and, if it came to its end, where it ended. -/
abbrev Taken := List (Nat × Nat × Option Nat)

inductive Task where
  | fit (p : Pattern)
  /-- The next of the rounds of a repetition, after `count` ones; `last` is the place from which the
  last optional round started. -/
  | round (least : Nat) (most : Option Nat) (isGreedy : Bool) (body : Pattern) (count : Nat)
      (last : Option Nat)
  | close (number : Nat)
  | goBack (s : Place)
  /-- Forgets the ways that were kept since the stack had this height. -/
  | cut (height : Nat)
  /-- Forgets these ways and turns back. -/
  | deny (height : Nat)

structure Way where
  tasks : List Task
  place : Place
  taken : Taken

/-- The way that the search goes, the other ways with their number, and how often it turned back. -/
structure Search where
  way : Way
  others : List Way
  height : Nat
  turns : Nat

inductive Outcome where
  | fits | misses | gaveUp
  deriving DecidableEq, Repr

/-- How often a search may turn back. -/
def maxTurns : Nat := 1000000

namespace Search

def goOn (a : Search) (tasks : List Task) : Except Outcome Search :=
  .ok { a with way := { a.way with tasks } }

def goTo (a : Search) (tasks : List Task) (s : Place) : Except Outcome Search :=
  .ok { a with way := { a.way with tasks, place := s } }

def keep (a : Search) (tasks : List Task) : Search :=
  { a with others := { a.way with tasks } :: a.others, height := a.height + 1 }

def turnBack (a : Search) : Except Outcome Search :=
  match a.others with
  | [] => .error .misses
  | w :: others =>
    if a.turns = maxTurns then .error .gaveUp else .ok ⟨w, others, a.height - 1, a.turns + 1⟩

def orTurnBack (a : Search) (tasks : List Task) : Option Place → Except Outcome Search
  | some s => a.goTo tasks s
  | none => a.turnBack

def forget (a : Search) (height : Nat) : Search :=
  { a with others := a.others.drop (a.height - height), height }

/-- The tasks in which each cut goes to the height of the cut before it, and the first to this one.
-/
def delayCuts (height : Nat) : List Task → List Task
  | [] => []
  | .cut next :: rest => .cut height :: delayCuts next rest
  | task :: rest => task :: delayCuts height rest

/-- Keeps one way and goes the other one: the first if it is preferred. -/
def choose (a : Search) (isFirst : Bool) (first second : List Task) : Except Outcome Search :=
  if isFirst then (a.keep second).goOn first else (a.keep first).goOn second

def round (a : Search) (least : Nat) (most : Option Nat) (isGreedy : Bool) (body : Pattern)
    (count : Nat) (last : Option Nat) (rest : List Task) : Except Outcome Search :=
  let more := fun last => .fit body :: .round least most isGreedy body (count + 1) last :: rest
  if most = some count then a.goOn rest
  else if most = none && count ≠ 0 && last = some a.way.place.position then a.turnBack
  else if count < least then a.goOn (more last)
  else a.choose isGreedy (more (some a.way.place.position)) rest

end Search

namespace Place

def slice (s : Place) (first last : Nat) : List Char :=
  if last ≤ s.position then ((s.before.drop (s.position - last)).take (last - first)).reverse
  else ((s.before.reverse ++ s.after).drop first).take (last - first)

def skipBytes? (fuel bytes : Nat) (s : Place) : Option Place :=
  match fuel with
  | 0 => none
  | fuel + 1 =>
    if bytes = 0 then some s
    else do
      let (c, t) ← s.next?
      if c.utf8Size ≤ bytes then t.skipBytes? fuel (bytes - c.utf8Size) else none

end Place

def beginsWith (text found : List Char) : Bool :=
  text.length ≤ found.length && (text.zip found).all fun p => Unicode.sameUpToCase p.1 p.2

def isWithin (text : List Char) : List Char → Bool
  | [] => text = []
  | c :: cs => beginsWith text (c :: cs) || isWithin text cs

/-- Whether a text is met again in another one of as many bytes, if need be up to case. Characters
that one byte holds count as the same only among themselves. -/
def isRepeated (ignoresCase : Bool) (text found : List Char) : Bool :=
  text == found || (ignoresCase &&
    if found.all fun c => c.toNat < 0x80 then text.map Char.toLower == found.map Char.toLower
    else isWithin text found)

namespace Search

def askAgain (a : Search) (number : Nat) (ignoresCase : Bool) (rest : List Task) :
    Except Outcome Search :=
  match a.way.taken.lookup number with
  | some (first, some last) =>
    let text := a.way.place.slice first last
    let bytes := (text.map Char.utf8Size).foldl (· + ·) 0
    match a.way.place.skipBytes? (bytes + 1) bytes with
    | some s =>
      if isRepeated ignoresCase text (s.slice a.way.place.position s.position) then a.goTo rest s
      else a.turnBack
    | none => a.turnBack
  | _ => a.turnBack

def openGroup (a : Search) (number : Nat) : Search :=
  let ended := (a.way.taken.lookup number).bind (·.2)
  let taken := (number, a.way.place.position, ended) :: a.way.taken.filter (·.1 ≠ number)
  { a with way := { a.way with taken } }

def closeGroup (a : Search) (number : Nat) : Search :=
  let taken := a.way.taken.map fun t =>
    if t.1 = number then (number, t.2.1, some a.way.place.position) else t
  { a with way := { a.way with taken } }

def fit (a : Search) (p : Pattern) (rest : List Task) : Except Outcome Search :=
  let s := a.way.place
  match p with
  | .nothing => a.goOn rest
  | .one set => a.orTurnBack rest (s.step? set)
  | .edge e => if e.holds s then a.goOn rest else a.turnBack
  | .seq p q => a.goOn (.fit p :: .fit q :: rest)
  | .either p q => a.choose true (.fit p :: rest) (.fit q :: rest)
  | .times 0 (some 1) isGreedy p => a.choose isGreedy (.fit p :: rest) rest
  | .times least most isGreedy p => a.goOn (.round least most isGreedy p 0 none :: rest)
  | .group n p => (a.openGroup n).goOn (.fit p :: .close n :: rest)
  | .again n ignoresCase _ => a.askAgain n ignoresCase rest
  | .begun n => if (a.way.taken.lookup n).isSome then a.goOn rest else a.turnBack
  | .branch p q r =>
    (a.keep (.fit r :: delayCuts a.height rest)).goOn (.fit p :: .cut a.height :: .fit q :: rest)
  | .committed p =>
    if p.isRegular then a.orTurnBack rest (p.ends [s]).head?
    else a.goOn (.fit p :: .cut a.height :: rest)
  | .ahead false p => a.goOn (.fit p :: .goBack s :: rest)
  | .ahead true p => (a.keep rest).goOn [.fit p, .deny a.height]
  | .behind false width p => a.orTurnBack (.fit p :: .goBack s :: rest) (s.back? width)
  | .behind true width p => (a.keep rest).orTurnBack [.fit p, .deny a.height] (s.back? width)

def step (a : Search) : Except Outcome Search :=
  match a.way.tasks with
  | [] => .error .fits
  | task :: rest =>
    match task with
    | .fit p => a.fit p rest
    | .round least most isGreedy body count last =>
      a.round least most isGreedy body count last rest
    | .close n => (a.closeGroup n).goOn rest
    | .goBack s => a.goTo rest s
    | .cut height => (a.forget height).goOn rest
    | .deny height => (a.forget height).turnBack

/-- Does one task after the other, but at most as many as the fuel allows. -/
def run (fuel : Nat) (a : Search) : Outcome :=
  match fuel with
  | 0 => .gaveUp
  | fuel + 1 =>
    match a.step with
    | .ok b => run fuel b
    | .error o => o

/-- More tasks than any search has before it turned back too often. -/
def maxTasks : Nat := Decimal.tenTo 15

end Search

def find (p : Pattern) (s : String) : Outcome :=
  if p.isRegular then if p.isFound s then .fits else .misses
  else
    let body := [Task.fit (p.marked true)]
    let tasks := if p.isAnchored then body else .fit (.times 0 none false (.one .all)) :: body
    Search.run Search.maxTasks ⟨⟨tasks, Place.start s.toList, []⟩, [], 0, 0⟩

def fits (p : Pattern) (s : String) : Bool := p.find s = .fits

end Pattern
end ReleaseAudit
