import ReleaseAudit.Pattern.Class

/-! The form in which patterns of a schema are kept: digits, blanks and characters of words are
spelt out as sets of few characters, and control characters stand for themselves. A pattern that
looks around or asks for a group by its number keeps its own spelling from there on. -/
namespace ReleaseAudit
namespace Pattern
namespace Portable

/-- What a first look at a pattern finds: it is sound, it is more than a regular one from some place
on, or it is no pattern. -/
inductive Verdict where
  | sound | beyond (rest : List Char) | refused
  deriving DecidableEq, Repr

/-- How far the first look has come: whether it has only begun, the text that is left, whether
blanks count, the same for each open group, whether there is something to repeat, the names of
groups, and whether a bell was rung. -/
structure Scan where
  isFirst : Bool
  rest : List Char
  ignoresSpace : Bool
  outer : List Bool
  canRepeat : Bool
  names : List (List Char)
  rings : Bool

abbrev Step := Except Verdict Scan

def Scan.to (s : Scan) (rest : List Char) (canRepeat : Bool) : Step :=
  .ok { s with rest, canRepeat }

def readCount (cs : List Char) : Option (Nat × List Char) :=
  let cs := cs.dropWhile Text.isBlank
  let n := Decimal.ofDigits (cs.takeWhile Decimal.isDigit)
  if cs.takeWhile Decimal.isDigit = [] || Decimal.twoTo 32 ≤ n then none
  else some (n, (cs.dropWhile Decimal.isDigit).dropWhile Text.isBlank)

def readBounds (cs : List Char) : Option (List Char) := do
  let (least, rest) ← readCount cs
  match rest with
  | '\x7d' :: rest => return rest
  | ',' :: '\x7d' :: rest => return rest
  | ',' :: rest =>
    let (most, rest) ← readCount rest
    match rest with
    | '\x7d' :: rest => if least ≤ most then return rest else none
    | _ => none
  | _ => none

def skipLazy (cs : List Char) : List Char := if cs.head? = some '?' then cs.drop 1 else cs

def repeats (s : Scan) (rest : List Char) : Step :=
  if s.canRepeat then s.to (skipLazy rest) true else .error .refused

def looksAround (cs : List Char) : Bool :=
  ["?=", "?!", "?<=", "?<!"].any fun mark => cs.take mark.length = mark.toList

def opens (s : Scan) (ignoresSpace : Bool) (rest : List Char) : Step :=
  .ok { s with rest, canRepeat := false, ignoresSpace, outer := s.ignoresSpace :: s.outer }

def isNameStart (c : Char) : Bool := c = '_' || Unicode.alphabetic.contains c

def isNamePart (c : Char) : Bool :=
  isNameStart c || c = '.' || c = '[' || c = ']' ||
    [.nd, .nl, .no].contains (Unicode.categoryOf c)

def opensNamed (s : Scan) (cs : List Char) : Step :=
  let name := cs.takeWhile (· ≠ '>')
  match cs.dropWhile (· ≠ '>') with
  | _ :: rest =>
    if ((name.head?.map isNameStart).getD false) && (name.drop 1).all isNamePart &&
        !s.names.contains name then
      opens { s with names := name :: s.names } s.ignoresSpace rest
    else .error .refused
  | [] => .error .refused

/-- Marks, up to the sign that ends them: each at most once, and a dash only before a mark. -/
def areMarks (marks : List Char) : Bool :=
  marks.all (fun c => "imsUuRx-".toList.contains c) && marks.Nodup && marks.getLast? ≠ some '-'

/-- Whether blanks do not count after these marks. -/
def spaceAfter (marks : List Char) (ignoresSpace : Bool) : Bool :=
  if (marks.takeWhile (· ≠ '-')).contains 'x' then true
  else if marks.contains 'x' then false
  else ignoresSpace

def isMarkEnd (c : Char) : Bool := c = ':' || c = ')'

/-- Marks, after the question mark before them: for a group, or for what follows. -/
def readMarks (s : Scan) (cs : List Char) : Step :=
  let marks := cs.takeWhile fun c => !isMarkEnd c
  if !areMarks marks then .error .refused
  else match cs.dropWhile fun c => !isMarkEnd c with
    | ')' :: rest =>
      if marks = [] then .error .refused
      else { s with ignoresSpace := spaceAfter marks s.ignoresSpace }.to rest false
    | _ :: rest => opens s (spaceAfter marks s.ignoresSpace) rest
    | [] => .error .refused

def opensGroup (s : Scan) (cs : List Char) : Step :=
  let cs := (Class.Mode.mk false s.ignoresSpace).skip cs
  if looksAround cs then .error (.beyond s.rest)
  else match cs with
    | '?' :: 'P' :: '<' :: cs => opensNamed s cs
    | '?' :: '<' :: cs => opensNamed s cs
    | '?' :: cs => readMarks s cs
    | cs => opens s s.ignoresSpace cs

def closesGroup (s : Scan) (cs : List Char) : Step :=
  match s.outer with
  | ignoresSpace :: outer => { s with ignoresSpace, outer }.to cs true
  | [] => .error .refused

def orRefused {α : Type} : Option α → Except Verdict α
  | some a => .ok a
  | none => .error .refused

/-- A set of characters, after its bracket. In a longer pattern its sets may nest less deep. -/
def skipsSet (s : Scan) (cs : List Char) : Step := do
  let (_, depth, rest) ← orRefused (Class.read ⟨false, s.ignoresSpace⟩ cs)
  let isAlone := s.isFirst && rest = []
  let around := s.outer.length + if isAlone then 0 else 1
  if Class.maxDepth < depth + around then .error .refused else s.to rest true

def skipsEscape (s : Scan) (cs : List Char) : Step := do
  if (cs.head?.map Decimal.isDigit).getD false then .error (.beyond s.rest)
  else
    let (_, rest) ← orRefused (readEscape false cs)
    { s with rings := s.rings || cs.head? = some 'a' }.to rest true

def step (s : Scan) (c : Char) (cs : List Char) : Step :=
  if c = '(' then opensGroup s cs
  else if c = ')' then closesGroup s cs
  else if c = '|' then s.to cs false
  else if c = '*' || c = '+' || c = '?' then repeats s cs
  else if c = '\x7b' then do repeats s (← orRefused (readBounds cs))
  else if c = '[' then skipsSet s cs
  else if c = '\\' then skipsEscape s cs
  else s.to cs true

def run (fuel : Nat) (s : Scan) : Verdict :=
  match fuel with
  | 0 => .refused
  | fuel + 1 =>
    match (Class.Mode.mk false s.ignoresSpace).skip s.rest with
    | [] => if s.outer = [] && !s.rings then .sound else .refused
    | c :: cs =>
      match step { s with rest := c :: cs } c cs with
      | .ok s => run fuel { s with isFirst := false }
      | .error v => v

/-- The first look at a pattern. -/
def verdict (cs : List Char) : Verdict :=
  run (cs.length + 1) ⟨true, cs, false, [], false, [], false⟩

def blankText : List Char :=
  [' ', '\t', '\n', '\r', '\x0b', '\x0c', '\u00a0', '\ufeff', '\u2003', '\u2029']

def spelling? : Char → Option (List Char)
  | 'd' => some "[0-9]".toList
  | 'D' => some "[^0-9]".toList
  | 'w' => some "[A-Za-z0-9_]".toList
  | 'W' => some "[^A-Za-z0-9_]".toList
  | 's' => some ('[' :: blankText ++ [']'])
  | 'S' => some ('[' :: '^' :: blankText ++ [']'])
  | _ => none

def withControls : List Char → List Char
  | '\\' :: 'c' :: l :: cs =>
    if isLetter l then controlOf l :: withControls cs else '\\' :: 'c' :: withControls (l :: cs)
  | '\\' :: c :: cs => '\\' :: c :: withControls cs
  | c :: cs => c :: withControls cs
  | [] => []

def withSets : List Char → List Char
  | '\\' :: c :: cs => (spelling? c).getD ['\\', c] ++ withSets cs
  | c :: cs => c :: withSets cs
  | [] => []

/-- The form in which a pattern is kept, if it is one. -/
def form? (cs : List Char) : Option (List Char) :=
  match verdict cs with
  | .sound => some (withSets (withControls cs))
  | .beyond rest => some (withControls (cs.take (cs.length - rest.length)) ++ rest)
  | .refused => none

end Portable
end Pattern
end ReleaseAudit
