import ReleaseAudit.Pattern.Portable
import ReleaseAudit.Pattern.Search

/-! Patterns as they are written. -/
namespace ReleaseAudit
namespace Pattern

structure Flags where
  ignoresCase : Bool
  manyLines : Bool
  dotTakesBreaks : Bool
  swapsGreed : Bool
  ignoresSpace : Bool
  deriving DecidableEq, Repr

/-- What is left of the text, and what was met before: marks, the number of groups, the widths of
those that were closed, their names, and whether a group was asked for by its number. -/
structure Reading where
  rest : List Char
  flags : Flags
  groups : Nat
  widths : List (Nat × Nat)
  names : List (List Char × Nat)
  usesNumbers : Bool

abbrev Reader := StateT Reading Option

def refuse {α : Type} : Reader α := fun _ => none

def rest : Reader (List Char) := do return (← get).rest

def goTo (cs : List Char) : Reader Unit := modify fun s => { s with rest := cs }

def flags : Reader Flags := do return (← get).flags

def afterComment? : List Char → Option (List Char)
  | [] => none
  | '\\' :: _ :: cs => afterComment? cs
  | c :: cs => if c = ')' then some cs else afterComment? cs

def isSkippedBlank (c : Char) : Bool := c = ' ' || c = '\r' || c = '\n' || c = '\t'

def spaceSkipped? (fuel : Nat) (ignoresSpace : Bool) (cs : List Char) : Option (List Char) :=
  match fuel with
  | 0 => some cs
  | fuel + 1 =>
    match cs with
    | '(' :: '?' :: '#' :: after => do spaceSkipped? fuel ignoresSpace (← afterComment? after)
    | c :: after =>
      if ignoresSpace && isSkippedBlank c then spaceSkipped? fuel ignoresSpace after
      else if ignoresSpace && c = '#' then
        spaceSkipped? fuel ignoresSpace ((after.dropWhile (· ≠ '\n')).drop 1)
      else some cs
    | [] => some []

def skipSpace : Reader Unit := do
  let s ← get
  match spaceSkipped? (s.rest.length + 1) s.flags.ignoresSpace s.rest with
  | some cs => goTo cs
  | none => refuse

def ofOption {α : Type} : Option α → Reader α
  | some a => return a
  | none => refuse

def oneOf (s : CharSet) : Reader Pattern := do return .one (caseless (← flags).ignoresCase s)

def literal (c : Char) : Reader Pattern := oneOf (.single c)

def readCode (width : Nat) (cs : List Char) : Option (Char × List Char) :=
  match cs with
  | '\x7b' :: after => do
    let (ds, rest) ← upToBrace? after
    if 8 < ds.length then none else return (← hexCharacter? ds, rest)
  | cs => readHex width cs

/-- What escapes stand for both inside and outside of brackets: a character, or a set as it is
written. -/
inductive Common where
  | literal (c : Char) | set (text : List Char)

def commonCharacter? (c : Char) : Option Char :=
  if c = 'e' then some '\x1b'
  else if c.isAlpha then escapedControl? c
  else some c

/-- An escape that is read in the same way inside and outside of brackets, after its backslash. -/
def readCommon (c : Char) (cs : List Char) : Option (Common × List Char) :=
  if c = 'd' || c = 'D' || c = 's' || c = 'S' || c = 'w' || c = 'W' then
    some (.set ['\\', c], cs)
  else if c = 'h' then some (.set "[0-9A-Fa-f]".toList, cs)
  else if c = 'H' then some (.set "[^0-9A-Fa-f]".toList, cs)
  else if c = 'x' then (readCode 2 cs).map fun r => (.literal r.1, r.2)
  else if c = 'u' then (readCode 4 cs).map fun r => (.literal r.1, r.2)
  else if c = 'U' then (readCode 8 cs).map fun r => (.literal r.1, r.2)
  else if c = 'p' || c = 'P' then do
    let (_, rest) ← readProperty cs
    return (.set ('\\' :: c :: cs.take (cs.length - rest.length)), rest)
  else (commonCharacter? c).map fun d => (.literal d, cs)

/-- Whether a letter that is escaped between brackets stands for itself, as what it means elsewhere
has no meaning there. -/
def isBareLetter (c : Char) : Bool :=
  c = 'k' || c = 'A' || c = 'z' || c = 'B' || c = 'K' || c = 'G'

def setText (fuel depth : Nat) (cs : List Char) : Option (List Char × List Char) :=
  match fuel, cs with
  | 0, _ => none
  | _ + 1, [] => none
  | _ + 1, ['\\'] => none
  | fuel + 1, '\\' :: c :: cs => do
    let (common, rest) ←
      if Decimal.isDigit c then none
      else if c = 'b' then some (.literal '\x08', cs)
      else if isBareLetter c then some (.literal c, cs)
      else readCommon c cs
    let own := match common with
      | .literal d => if isMeta d then ['\\', d] else [d]
      | .set text => text
    (setText fuel depth rest).map fun r => (own ++ r.1, r.2)
  | fuel + 1, '[' :: cs => (setText fuel (depth + 1) cs).map fun r => ('[' :: r.1, r.2)
  | fuel + 1, ']' :: cs =>
    match depth with
    | 0 => some ([']'], cs)
    | depth + 1 => (setText fuel depth cs).map fun r => (']' :: r.1, r.2)
  | fuel + 1, c :: cs => (setText fuel depth cs).map fun r => (c :: r.1, r.2)

def setOf (text : List Char) : Reader Pattern := do
  match Class.read ⟨(← flags).ignoresCase, false⟩ text with
  | some (s, depth, []) => if Class.maxDepth < depth then refuse else return .one s
  | _ => refuse

/-- A set, after its first bracket. A bracket that comes first stands for itself. -/
def readSet (cs : List Char) : Reader Pattern := do
  let mark := if cs.head? = some '^' then ['^'] else []
  let cs := cs.drop mark.length
  let own := if cs.head? = some ']' then [']'] else []
  let cs := cs.drop own.length
  let (text, after) ← ofOption (setText (cs.length + 1) 0 cs)
  goTo after
  setOf (mark ++ own ++ text)

def askFor (number : Nat) : Reader Pattern := do
  return .again number (← flags).ignoresCase ((← get).widths.lookup number)

def askByNumber (cs : List Char) : Reader Pattern := do
  modify fun s => { s with rest := cs.dropWhile Decimal.isDigit, usesNumbers := true }
  askFor (Decimal.ofDigits (cs.takeWhile Decimal.isDigit))

def isGroupNameCharacter (c : Char) : Bool :=
  c = '_' || Unicode.alphabetic.contains c || [.nd, .nl, .no].contains (Unicode.categoryOf c)

def expect (text cs : List Char) : Reader Unit :=
  if text.isPrefixOf cs then goTo (cs.drop text.length) else refuse

def readName (finish : Char) (cs : List Char) : Reader (List Char) := do
  let name := cs.takeWhile isGroupNameCharacter
  expect [finish] (cs.dropWhile isGroupNameCharacter)
  if name = [] then refuse else return name

/-- The group with this name or, where there is none, with this number. -/
def groupNamed (name : List Char) : Reader Nat := do
  match (← get).names.lookup name with
  | some n => return n
  | none => if name.all Decimal.isDigit then return Decimal.ofDigits name else refuse

/-- The group that is so many groups before the next one, or after the last one. -/
def groupNear (isBefore : Bool) (distance : Nat) : Reader Nat := do
  let groups := (← get).groups
  if !isBefore || distance = 0 then return groups + distance
  else if groups + 1 < distance then refuse
  else return groups + 1 - distance

def readGroupName (isRelative : Bool) (finish cs : List Char) : Reader Nat := do
  let name := cs.takeWhile isGroupNameCharacter
  match name, cs.dropWhile isGroupNameCharacter with
  | [], sign :: more =>
    let digits := more.takeWhile Decimal.isDigit
    if isRelative && (sign = '-' || sign = '+') && digits ≠ [] then
      expect finish (more.dropWhile Decimal.isDigit)
      groupNear (sign = '-') (Decimal.ofDigits digits)
    else refuse
  | name, after =>
    expect finish after
    groupNamed name

def askByName (isRelative : Bool) (finish : Char) (cs : List Char) : Reader Pattern := do
  askFor (← readGroupName isRelative [finish] cs)

def escapedPlace? (c : Char) : Option Edge :=
  if c = 'Z' then some .lastLineEnd else if c = 'G' then some .start else escapedEdge? c

def readAtomEscape (cs : List Char) : Reader Pattern :=
  match cs with
  | [] => refuse
  | c :: after => do
    if Decimal.isDigit c then askByNumber cs
    else if c = 'k' then
      match after with
      | '\'' :: name => askByName true '\'' name
      | '<' :: name => askByName true '>' name
      | _ => refuse
    else if (c = 'b' || c = 'B') && after.head? = some '\x7b' then refuse
    else if c = 'K' then goTo after; return .committed .nothing
    else if c = 'O' then goTo after; return .one .all
    else match escapedPlace? c with
      | some e => goTo after; return .edge e
      | none =>
        let (common, after) ← ofOption (readCommon c after)
        goTo after
        match common with
        | .literal d => literal d
        | .set text => setOf (text ++ [']'])

/-- The bounds of a repetition between braces, and the text after it. Without bounds, or where there
is nothing but a comma before the upper one, the lower one is none. -/
def bounds? (skip : List Char → Option (List Char)) (cs : List Char) :
    Option ((Nat × Option Nat) × List Char) := do
  let cs ← skip cs
  let digits := cs.takeWhile Decimal.isDigit
  let least := Decimal.ofDigits digits
  if Decimal.twoTo 64 ≤ least then none
  else match ← skip (cs.dropWhile Decimal.isDigit) with
    | '\x7d' :: rest => if digits = [] then none else return ((least, some least), rest)
    | ',' :: after =>
      let after ← skip after
      let digits := after.takeWhile Decimal.isDigit
      let most := Decimal.ofDigits digits
      if Decimal.twoTo 64 ≤ most then none
      else match ← skip (after.dropWhile Decimal.isDigit) with
        | '\x7d' :: rest => return ((least, if digits = [] then none else some most), rest)
        | _ => none
    | _ => none

def repetition? (skip : List Char → Option (List Char)) :
    List Char → Option ((Nat × Option Nat) × List Char)
  | '*' :: rest => some ((0, none), rest)
  | '+' :: rest => some ((1, none), rest)
  | '?' :: rest => some ((0, some 1), rest)
  | '\x7b' :: rest => bounds? skip rest
  | _ => none

/-- Edges, looks and nothing cannot be repeated. -/
def isRepeatable : Pattern → Bool
  | .nothing | .edge _ | .ahead _ _ | .behind _ _ _ => false
  | _ => true

def repeated (p : Pattern) : Reader Pattern := do
  skipSpace
  let s ← get
  match repetition? (spaceSkipped? (s.rest.length + 1) s.flags.ignoresSpace) s.rest with
  | none => return p
  | some ((least, most), after) =>
    if !isRepeatable p then refuse
    else
      goTo after
      skipSpace
      let isLazy := (← rest).head? = some '?'
      if isLazy then goTo ((← rest).drop 1)
      let q := Pattern.times least most (isLazy == (← flags).swapsGreed) p
      if (← rest).head? = some '+' then
        goTo ((← rest).drop 1)
        return .committed q
      else return q

/-- A part of a pattern that is kept apart from what is around it, as a group that is never asked
for. -/
def apart : Pattern → Pattern
  | .seq p q => .group 0 (.seq p q)
  | .either p q => .group 0 (.either p q)
  | p => p

def alone : Pattern → Pattern
  | .group 0 p => p
  | p => p

/-- A look behind. Each of its alternatives has to take a fixed number of characters. -/
def lookBehind (isNegated : Bool) (p : Pattern) : Reader Pattern := do
  match p.width? with
  | some n => return .behind isNegated n p
  | none =>
    let parts ← ofOption (p.alternatives.mapM fun q => (q.width?).map fun n =>
      Pattern.behind isNegated n q)
    match parts.reverse with
    | [] => refuse
    | last :: before =>
      return before.foldl (fun q b => if isNegated then .seq b q else .either b q) last

def switched? (c : Char) (isOn : Bool) (f : Flags) : Option Flags :=
  if c = 'i' then some { f with ignoresCase := isOn }
  else if c = 'm' then some { f with manyLines := isOn }
  else if c = 's' then some { f with dotTakesBreaks := isOn }
  else if c = 'U' then some { f with swapsGreed := isOn }
  else if c = 'x' then some { f with ignoresSpace := isOn }
  else if c = 'u' && isOn then some f
  else none

/-- Marks up to the sign that ends them: whether they are those of a group, and what they switch.
There is a mark after a dash, and one at least before a bracket; blanks may stand before both. -/
def readFlags (fuel : Nat) (isFirst isOn isAfterDash : Bool) (f : Flags) (cs : List Char) :
    Option (Bool × Flags × List Char) :=
  match fuel with
  | 0 => none
  | fuel + 1 => do
    let after ← spaceSkipped? (cs.length + 1) f.ignoresSpace cs
    let isAfterDash := isAfterDash && after.length = cs.length
    match after with
    | [] => none
    | c :: rest =>
      if c = ':' then if isAfterDash then none else some (true, f, rest)
      else if c = ')' then
        if (isFirst && after.length = cs.length) || isAfterDash then none else some (false, f, rest)
      else if c = '-' then if isOn then readFlags fuel false false true f rest else none
      else do readFlags fuel false isOn false (← switched? c isOn f) rest

def maxDepth : Nat := 63

inductive Opening where
  | looking (isAhead isNegated : Bool) | atomic | plain | named (finish : Char) | branch

def opening (cs : List Char) : Opening × List Char :=
  match cs with
  | '?' :: '=' :: cs => (.looking true false, cs)
  | '?' :: '!' :: cs => (.looking true true, cs)
  | '?' :: '<' :: '=' :: cs => (.looking false false, cs)
  | '?' :: '<' :: '!' :: cs => (.looking false true, cs)
  | '?' :: '<' :: cs => (.named '>', cs)
  | '?' :: '\'' :: cs => (.named '\'', cs)
  | '?' :: 'P' :: '<' :: cs => (.named '>', cs)
  | '?' :: '(' :: cs => (.branch, cs)
  | '?' :: '>' :: cs => (.atomic, cs)
  | cs => (.plain, cs)

def newGroup : Reader Nat := do
  modify fun s => { s with groups := s.groups + 1 }
  return (← get).groups

def nameGroup (name : List Char) : Reader Nat := do
  let n ← newGroup
  modify fun s => { s with names := (name, n) :: s.names }
  return n

def closeGroup : Reader Unit := do
  skipSpace
  match ← rest with
  | ')' :: after => goTo after
  | _ => refuse

def closeNumbered (n : Nat) (p : Pattern) : Reader Pattern := do
  closeGroup
  match p.width? with
  | some width => modify fun s => { s with widths := (n, width) :: s.widths }
  | none => pure ()
  return .group n p

def branchOf (test : Pattern) : Pattern → Pattern
  | .either .nothing .nothing => test
  | .either p q => .branch test p q
  | p => .branch test p .nothing

/-- The test of a branch that asks whether a group has begun, if it is one. -/
def groupTest? (cs : List Char) : Option (Reader Nat) :=
  match cs with
  | '\'' :: rest => some (readGroupName true ['\'', ')'] rest)
  | '<' :: rest => some (readGroupName true ['>', ')'] rest)
  | c :: _ =>
    if c = '+' || c = '-' || Decimal.isDigit c then some (readGroupName true [')'] cs) else none
  | [] => none

def setFlags (f : Flags) : Reader Unit := modify fun s => { s with flags := f }

/-- Groups may not be asked for by number where they have names. -/
def refuseMixedNames : Reader Unit := do
  if (← get).usesNumbers && !(← get).names.isEmpty then refuse

mutual

def readEither (fuel depth : Nat) : Reader Pattern :=
  match fuel with
  | 0 => refuse
  | fuel + 1 => do
    let p ← readSeq fuel depth
    skipSpace
    match ← rest with
    | '|' :: after =>
      goTo after
      return .either p (← readOthers fuel depth)
    | _ => refuseMixedNames; return p

def readOthers (fuel depth : Nat) : Reader Pattern :=
  match fuel with
  | 0 => refuse
  | fuel + 1 => do
    let p ← readSeq fuel depth
    skipSpace
    match ← rest with
    | '|' :: after =>
      goTo after
      return .either p (← readOthers fuel depth)
    | _ => return p

def readSeq (fuel depth : Nat) : Reader Pattern :=
  match fuel with
  | 0 => refuse
  | fuel + 1 => do
    let before ← rest
    if before = [] then return .nothing
    else
      let atom ← readAtom fuel depth
      let p ← repeated atom
      if (← rest).length = before.length then return .nothing
      else
        let q ← readSeq fuel depth
        return if p = .nothing then q else if q = .nothing then p else .seq p q

def readAtom (fuel depth : Nat) : Reader Pattern :=
  match fuel with
  | 0 => refuse
  | fuel + 1 => do
    skipSpace
    match ← rest with
    | [] => return .nothing
    | c :: cs =>
      if c = '(' then readGroup fuel (depth + 1) cs
      else if c = '[' then readSet cs
      else if c = '\\' then readAtomEscape cs
      else if c = '+' || c = '*' || c = '?' || c = '|' || c = ')' then return .nothing
      else
        goTo cs
        if c = '.' then
          return .one (if (← flags).dotTakesBreaks then .all else (CharSet.single '\n').complement)
        else if c = '^' then return .edge (if (← flags).manyLines then .lineStart else .start)
        else if c = '$' then return .edge (if (← flags).manyLines then .lineEnd else .finish)
        else literal c

def readGroup (fuel depth : Nat) (cs : List Char) : Reader Pattern :=
  match fuel with
  | 0 => refuse
  | fuel + 1 => do
    if maxDepth < depth then refuse
    else
      goTo cs
      skipSpace
      match opening (← rest) with
      | (.looking isAhead isNegated, cs) =>
        goTo cs
        let p ← readEither fuel depth
        closeGroup
        if isAhead then return .ahead isNegated p else lookBehind isNegated (alone p)
      | (.atomic, cs) =>
        goTo cs
        let p ← readEither fuel depth
        closeGroup
        return .committed p
      | (.named finish, cs) =>
        let n ← nameGroup (← readName finish cs)
        closeNumbered n (← readEither fuel depth)
      | (.branch, cs) => readBranch fuel depth cs
      | (.plain, '?' :: 'P' :: '=' :: cs) => askByName false ')' cs
      | (.plain, '?' :: cs) =>
        let old ← flags
        let (isGroup, f, cs) ← ofOption (readFlags (cs.length + 1) true true false old cs)
        goTo cs
        setFlags f
        if isGroup then
          let p ← readEither fuel depth
          match ← rest with
          | ')' :: after => goTo after; setFlags old; return apart p
          | _ => refuse
        else return .nothing
      | (.plain, cs) =>
        let n ← newGroup
        goTo cs
        closeNumbered n (← readEither fuel depth)

def readBranch (fuel depth : Nat) (cs : List Char) : Reader Pattern :=
  match fuel with
  | 0 => refuse
  | fuel + 1 => do
    let (isGroup, test) ← match groupTest? cs with
      | some read => do pure (true, Pattern.begun (← read))
      | none => do
        goTo cs
        let p ← readEither fuel depth
        closeGroup
        match p with
        | .again n _ _ => pure (true, .begun n)
        | p => pure (false, p)
    let before ← rest
    let body ← readEither fuel depth
    let isEmpty := (← rest).length = before.length
    closeGroup
    if !isEmpty then return branchOf test (alone body)
    else if isGroup then return test
    else refuse

end

def hasGroups (groups : Nat) (p : Pattern) : Bool :=
  p.askedGroups.all fun n => 1 ≤ n && n ≤ groups

/-- Whether a pattern, or what is matched at once in it, has too many steps or bounds in the wrong
order. -/
def isRefused (p : Pattern) : Bool :=
  if p.isRegular then p.isUnfit else (p.marked true).hasUnfit

def parse? (text : List Char) : Option Pattern := do
  let start : Reading := ⟨text, ⟨false, false, false, false, false⟩, 0, [], [], false⟩
  let (p, s) ← (readEither (5 * text.length + 5) 0).run start
  let p := (alone p).withoutLastLook
  let p := p.keepGroups p.askedGroups
  if s.rest ≠ [] || !p.hasGroups s.groups || p.isRefused then none else return p

def ofText? (text : String) : Option (String × Pattern) := do
  let form ← Portable.form? text.toList
  return (String.ofList form, ← parse? form)

end Pattern
end ReleaseAudit
