import ReleaseAudit.Json.Reader
import ReleaseAudit.Pattern
import ReleaseAudit.Text.Blank
import ReleaseAudit.Unicode.Folding
import ReleaseAudit.Unicode.Property

/-! Escapes, and sets of characters between brackets. A set may hold other sets, and sets may be cut
with each other. -/
namespace ReleaseAudit
namespace Pattern

def isMeta (c : Char) : Bool := "\\.+*?()|[]\x7b\x7d^$#&-~".toList.contains c

/-- Whether a character stands for itself after a backslash. -/
def isEscapable (c : Char) : Bool :=
  isMeta c || (c.toNat < 0x80 && !c.isAlphanum && c ≠ '<' && c ≠ '>')

def isLetter (c : Char) : Bool := c.isAlpha

def hexCharacter? (ds : List Char) : Option Char := do
  if ds = [] then none
  else
    let n := (← ds.mapM Json.hexValue?).foldl (fun n d => n * 16 + d) 0
    if n.isValidChar then return Char.ofNat n else none

def upToBrace? (cs : List Char) : Option (List Char × List Char) :=
  match cs.dropWhile (· ≠ '\x7d') with
  | _ :: rest => some (cs.takeWhile (· ≠ '\x7d'), rest)
  | [] => none

/-- A code point as `width` digits or between braces. -/
def readHex (width : Nat) (cs : List Char) : Option (Char × List Char) :=
  match cs with
  | '\x7b' :: cs => do
    let (ds, rest) ← upToBrace? cs
    return (← hexCharacter? ds, rest)
  | cs =>
    if cs.length < width then none else (hexCharacter? (cs.take width)).map (·, cs.drop width)

def splitAt? (mark : List Char) : List Char → Option (List Char × List Char)
  | [] => none
  | c :: cs =>
    if (c :: cs).take mark.length = mark then some ([], (c :: cs).drop mark.length)
    else (splitAt? mark cs).map fun r => (c :: r.1, r.2)

def propertySet? (name : List Char) : Option CharSet :=
  match splitAt? ['!', '='] name with
  | some (n, v) => (Unicode.valued? n v).map CharSet.complement
  | none =>
    match (splitAt? [':'] name).orElse fun _ => splitAt? ['='] name with
    | some (n, v) => Unicode.valued? n v
    | none => Unicode.named? name

def readProperty (cs : List Char) : Option (CharSet × List Char) :=
  match cs with
  | '\x7b' :: cs => do
    let (name, rest) ← upToBrace? cs
    return (← propertySet? name, rest)
  | c :: rest => if c = '\\' then none else (propertySet? [c]).map (·, rest)
  | [] => none

def caseless (ignoresCase : Bool) (s : CharSet) : CharSet :=
  if ignoresCase then Unicode.withOtherCases s else s

/-- The digits, the blanks or the characters of words, or all others. -/
def shorthand? (c : Char) : Option CharSet :=
  if c = 'd' then some Unicode.decimalDigits
  else if c = 'D' then some Unicode.decimalDigits.complement
  else if c = 's' then some Unicode.whiteSpace
  else if c = 'S' then some Unicode.whiteSpace.complement
  else if c = 'w' then some Unicode.wordCharacters
  else if c = 'W' then some Unicode.wordCharacters.complement
  else none

inductive Escape where
  | literal (c : Char) | set (s : CharSet) | edge (e : Edge)

def escapedControl? : Char → Option Char
  | 'a' => some '\x07'
  | 'f' => some '\x0c'
  | 'n' => some '\n'
  | 'r' => some '\r'
  | 't' => some '\t'
  | 'v' => some '\x0b'
  | _ => none

def escapedEdge? : Char → Option Edge
  | 'A' => some .start
  | 'z' => some .finish
  | 'b' => some .wordEdge
  | 'B' => some .notWordEdge
  | '<' => some .wordStart
  | '>' => some .wordEnd
  | _ => none

def isEdgeName (c : Char) : Bool := isLetter c || c = '-'

def edgeNames : List String := ["start", "end", "start-half", "end-half"]

def afterEdgeName? (cs : List Char) : Option (List Char) :=
  match cs with
  | '\x7b' :: rest =>
    if rest = [] then none
    else if !((rest.head?.map isEdgeName).getD false) then some cs
    else match rest.dropWhile isEdgeName with
      | '\x7d' :: after =>
        if edgeNames.contains (String.ofList (rest.takeWhile isEdgeName)) then some after else none
      | _ => none
  | _ => some cs

def controlOf (c : Char) : Char := Char.ofNat (c.toNat % 32)

def readEscape (ignoresCase : Bool) : List Char → Option (Escape × List Char)
  | [] => none
  | c :: cs =>
    if c = 'x' then (readHex 2 cs).map fun r => (.literal r.1, r.2)
    else if c = 'u' then (readHex 4 cs).map fun r => (.literal r.1, r.2)
    else if c = 'U' then (readHex 8 cs).map fun r => (.literal r.1, r.2)
    else if c = 'p' then (readProperty cs).map fun r => (.set (caseless ignoresCase r.1), r.2)
    else if c = 'P' then
      (readProperty cs).map fun r => (.set (caseless ignoresCase r.1).complement, r.2)
    else if c = 'b' then (afterEdgeName? cs).map fun rest => (.edge .wordEdge, rest)
    else if c = 'c' then
      match cs with
      | l :: rest => if isLetter l then some (.literal (controlOf l), rest) else none
      | [] => none
    else if isEscapable c then some (.literal c, cs)
    else match shorthand? c, escapedControl? c, escapedEdge? c with
      | some s, _, _ => some (.set s, cs)
      | none, some d, _ => some (.literal d, cs)
      | none, none, some e => some (.edge e, cs)
      | none, none, none => none

namespace Class

/-- The sets of the first characters that have names. -/
def namedRuns? (name : String) : Option (List (Nat × Nat)) :=
  [("alnum", [(0x30, 0x39), (0x41, 0x5a), (0x61, 0x7a)]), ("alpha", [(0x41, 0x5a), (0x61, 0x7a)]),
    ("ascii", [(0, 0x7f)]), ("blank", [(9, 9), (0x20, 0x20)]), ("cntrl", [(0, 0x1f), (0x7f, 0x7f)]),
    ("digit", [(0x30, 0x39)]), ("graph", [(0x21, 0x7e)]), ("lower", [(0x61, 0x7a)]),
    ("print", [(0x20, 0x7e)]),
    ("punct", [(0x21, 0x2f), (0x3a, 0x40), (0x5b, 0x60), (0x7b, 0x7e)]),
    ("space", [(9, 0xd), (0x20, 0x20)]), ("upper", [(0x41, 0x5a)]),
    ("word", [(0x30, 0x39), (0x41, 0x5a), (0x5f, 0x5f), (0x61, 0x7a)]),
    ("xdigit", [(0x30, 0x39), (0x41, 0x46), (0x61, 0x66)])].lookup name

def readNamed? (ignoresCase : Bool) : List Char → Option (CharSet × List Char)
  | ':' :: cs => do
    let isNegated := cs.head? = some '^'
    let cs := if isNegated then cs.drop 1 else cs
    match cs.dropWhile (· ≠ ':') with
    | ':' :: ']' :: rest =>
      let s := caseless ignoresCase ⟨← namedRuns? (String.ofList (cs.takeWhile (· ≠ ':')))⟩
      return (if isNegated then s.complement else s, rest)
    | _ => none
  | _ => none

/-- How sets are read: whether cases are ignored, and whether blanks and comments are. -/
structure Mode where
  ignoresCase : Bool
  ignoresSpace : Bool

def skipSpace (fuel : Nat) (cs : List Char) : List Char :=
  match fuel, cs.dropWhile Text.isBlank with
  | 0, cs => cs
  | fuel + 1, '#' :: cs => skipSpace fuel (cs.dropWhile (· ≠ '\n'))
  | _, cs => cs

namespace Mode

def skip (m : Mode) (cs : List Char) : List Char :=
  if m.ignoresSpace then skipSpace cs.length cs else cs

def close (m : Mode) (s : CharSet) : CharSet := caseless m.ignoresCase s

end Mode

/-- Some items of a set: what they hold, their number, and how deep further sets nest in them. -/
structure Items where
  set : CharSet
  count : Nat
  depth : Nat

namespace Items

def none : Items := ⟨.empty, 0, 0⟩

def add (a : Items) (s : CharSet) (depth : Nat) : Items :=
  ⟨a.set.union s, a.count + 1, max a.depth depth⟩

def wholeDepth (a : Items) : Nat := if 1 < a.count then a.depth + 1 else a.depth

end Items

def readDashes (fuel : Nat) (m : Mode) (a : Items) (cs : List Char) : Items × List Char :=
  match fuel, cs with
  | fuel + 1, '-' :: rest => readDashes fuel m (a.add (.single '-') 0) (m.skip rest)
  | _, cs => (a, cs)

/-- What may stand right after a bracket: the mark of a complement, and dashes or a bracket that
stand for themselves. -/
def readStart (m : Mode) (cs : List Char) : Option (Bool × Items × List Char) :=
  let cs := m.skip cs
  let isNegated := cs.head? = some '^'
  let cs := if isNegated then m.skip (cs.drop 1) else cs
  let (own, rest) := readDashes cs.length m .none cs
  let (own, rest) :=
    if own.count = 0 && rest.head? = some ']' then (own.add (.single ']') 0, m.skip (rest.drop 1))
    else (own, rest)
  if rest = [] then none else some (isNegated, own, rest)

inductive Operation where
  | inter | diff | symmetricDiff
  deriving DecidableEq, Repr

def Operation.apply : Operation → CharSet → CharSet → CharSet
  | .inter => .inter
  | .diff => .diff
  | .symmetricDiff => .symmetricDiff

def readOperation? : List Char → Option (Operation × List Char)
  | '&' :: '&' :: cs => some (.inter, cs)
  | '-' :: '-' :: cs => some (.diff, cs)
  | '~' :: '~' :: cs => some (.symmetricDiff, cs)
  | _ => none

def combine (m : Mode) (before : Option (Items × Operation)) (a : Items) : Items :=
  match before with
  | some (left, op) =>
    ⟨op.apply (m.close left.set) (m.close a.set), 1, max left.wholeDepth a.wholeDepth + 1⟩
  | none => a

def readItem (m : Mode) : List Char → Option (Escape × List Char)
  | '\\' :: cs => readEscape m.ignoresCase cs
  | c :: cs => some (.literal c, cs)
  | [] => none

def Escape.toSet? : Escape → Option CharSet
  | .literal c => some (.single c)
  | .set s => some s
  | .edge _ => none

def readRange (m : Mode) (cs : List Char) : Option (CharSet × List Char) := do
  let (first, rest) ← readItem m cs
  match m.skip rest with
  | [] => none
  | '-' :: more =>
    let next := (m.skip more).head?
    if next = some ']' || next = some '-' then return (← Escape.toSet? first, '-' :: more)
    else
      let (last, rest) ← readItem m (m.skip more)
      match first, last with
      | .literal a, .literal b =>
        if a ≤ b then return (⟨[(a.toNat, b.toNat)]⟩, rest) else none
      | _, _ => none
  | rest => return (← Escape.toSet? first, rest)

def readItems (fuel : Nat) (m : Mode) (before : Option (Items × Operation)) (a : Items)
    (cs : List Char) : Option (CharSet × Nat × List Char) :=
  match fuel, m.skip cs with
  | 0, _ => none
  | _ + 1, [] => none
  | fuel + 1, c :: cs =>
    if c = ']' then
      let a := combine m before a
      some (m.close a.set, a.wholeDepth + 1, cs)
    else if c = '[' then
      match readNamed? m.ignoresCase cs with
      | some (named, rest) => readItems fuel m before (a.add named 0) rest
      | none => do
        let (isNegated, own, rest) ← readStart m cs
        let (inner, depth, rest) ← readItems fuel m none own rest
        readItems fuel m before (a.add (if isNegated then inner.complement else inner) depth) rest
    else match readOperation? (c :: cs) with
      | some (op, rest) => readItems fuel m (some (combine m before a, op)) .none rest
      | none => do
        let (set, rest) ← readRange m (c :: cs)
        readItems fuel m before (a.add set 0) rest

/-- A set, after its first bracket: its characters, how deep sets nest in it, and what follows. -/
def read (m : Mode) (cs : List Char) : Option (CharSet × Nat × List Char) := do
  let (isNegated, own, rest) ← readStart m cs
  let (s, depth, rest) ← readItems (cs.length + 1) m none own rest
  return (if isNegated then s.complement else s, depth, rest)

def maxDepth : Nat := 250

end Class
end Pattern
end ReleaseAudit
