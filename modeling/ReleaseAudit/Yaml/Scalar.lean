import ReleaseAudit.Json.Reader
import ReleaseAudit.Yaml.Cursor

/-! The texts of scalars: quoted, plain and in blocks. Line breaks inside the first two are folded.
-/
namespace ReleaseAudit
namespace Yaml

/-- Blanks and line breaks between two pieces of a scalar. Blanks count only on the line on which
the first piece ends. -/
structure Gap where
  blanks : List Char
  isBroken : Bool
  firstBreak : List Char
  moreBreaks : List Char
  deriving DecidableEq, Repr

namespace Gap

def none : Gap := ⟨[], false, [], []⟩

def escapedBreak : Gap := ⟨[], true, [], []⟩

/-- What a gap adds to the scalar: a single line break becomes a blank. -/
def text (g : Gap) : List Char :=
  if g.isBroken then
    if g.firstBreak = ['\n'] then if g.moreBreaks = [] then [' '] else g.moreBreaks
    else g.firstBreak ++ g.moreBreaks
  else g.blanks

def addBreak (g : Gap) (b : List Char) : Gap :=
  if g.isBroken then { g with moreBreaks := g.moreBreaks ++ b } else ⟨[], true, b, []⟩

def addBlank (g : Gap) (b : Char) : Gap :=
  if g.isBroken then g else { g with blanks := g.blanks ++ [b] }

/-- The gap that starts here. A tab to the left of `indent` on a later line is an error. -/
def read (fuel : Nat) (indent : Int) (g : Gap) (c : Cursor) : Except Flaw (Gap × Cursor) :=
  match fuel, c.rest with
  | 0, _ => .ok (g, c)
  | _ + 1, [] => .ok (g, c)
  | fuel + 1, ch :: _ =>
    if isBlank ch then
      if g.isBroken && (c.column : Int) < indent && ch = '\t' then .error .badIndentation
      else read fuel indent (g.addBlank ch) (c.advance 1)
    else if isBreak ch then read fuel indent (g.addBreak c.breakText) c.nextLine
    else .ok (g, c)

end Gap

def simpleEscape? : Char → Option Char
  | '0' => some '\x00'
  | 'a' => some '\x07'
  | 'b' => some '\x08'
  | 't' => some '\t'
  | '\t' => some '\t'
  | 'n' => some '\n'
  | 'v' => some '\x0b'
  | 'f' => some '\x0c'
  | 'r' => some '\r'
  | 'e' => some '\x1b'
  | ' ' => some ' '
  | '"' => some '"'
  | '/' => some '/'
  | '\\' => some '\\'
  | 'N' => some '\u0085'
  | '_' => some '\u00a0'
  | 'L' => some '\u2028'
  | 'P' => some '\u2029'
  | _ => none

def escapeWidth? : Char → Option Nat
  | 'x' => some 2
  | 'u' => some 4
  | 'U' => some 8
  | _ => none

def hexNumber? (width : Nat) (cs : List Char) : Option Nat :=
  let ds := cs.take width
  if ds.length < width then none
  else ds.foldl (fun n d => do return (← n) * 16 + (← Json.hexValue? d)) (some 0)

def readEscape (cs : List Char) : Except Flaw (Char × Nat) :=
  match cs with
  | [] => .error .badEscape
  | ch :: rest =>
    match simpleEscape? ch, escapeWidth? ch with
    | some d, _ => .ok (d, 1)
    | none, some width =>
      match hexNumber? width rest with
      | some n =>
        if (0xd800 ≤ n && n ≤ 0xdfff) || 0x10ffff < n then .error .badEscape
        else .ok (Char.ofNat n, width + 1)
      | none => .error .badEscape
    | none, none => .error .badEscape

inductive QuotedStop where
  | quote | gap | escapedBreak
  deriving DecidableEq, Repr

/-- The characters of a quoted scalar up to its quote or the next gap. -/
def quotedPiece (fuel : Nat) (single : Bool) (c : Cursor) :
    Except Flaw (List Char × QuotedStop × Cursor) :=
  match fuel, c.rest with
  | 0, _ => .error .unexpectedEnd
  | _ + 1, [] => .ok ([], .gap, c)
  | fuel + 1, ch :: rest =>
    if isBlank ch || isBreak ch then .ok ([], .gap, c)
    else if single then
      if ch = '\'' then
        if rest.head? = some '\'' then
          (quotedPiece fuel single (c.advance 2)).map fun r => ('\'' :: r.1, r.2)
        else .ok ([], .quote, c)
      else (quotedPiece fuel single (c.advance 1)).map fun r => (ch :: r.1, r.2)
    else if ch = '"' then .ok ([], .quote, c)
    else if ch = '\\' then
      if rest ≠ [] && endsLine rest then .ok ([], .escapedBreak, (c.advance 1).nextLine)
      else do
        let (d, used) ← readEscape rest
        (quotedPiece fuel single (c.advance (used + 1))).map fun r => (d :: r.1, r.2)
    else (quotedPiece fuel single (c.advance 1)).map fun r => (ch :: r.1, r.2)

def quotedBody (fuel : Nat) (single : Bool) (c : Cursor) : Except Flaw (List Char × Cursor) :=
  match fuel with
  | 0 => .error .unexpectedEnd
  | fuel + 1 =>
    if c.atDocumentMark then .error .documentMarkInScalar
    else if c.rest = [] then .error .unexpectedEnd
    else do
      let (piece, stop, c) ← quotedPiece (c.rest.length + 1) single c
      match stop with
      | .quote => return (piece, c.advance 1)
      | stop =>
        let before := if stop = .escapedBreak then Gap.escapedBreak else Gap.none
        let (gap, c) ← before.read (c.rest.length + 1) 0 c
        (quotedBody fuel single c).map fun r => (piece ++ gap.text ++ r.1, r.2)

def readQuoted (single : Bool) (c : Cursor) : Except Flaw (String × Cursor) :=
  (quotedBody (c.rest.length + 1) single (c.advance 1)).map fun r => (String.ofList r.1, r.2)

def isFlowBracket (c : Char) : Bool := c = '[' || c = ']' || c = '\x7b' || c = '\x7d'

def endsPlain (inFlow : Bool) : List Char → Bool
  | [] => true
  | ch :: rest =>
    isBlank ch || isBreak ch || (ch = ':' && endsWord rest) ||
      (inFlow && (ch = ',' || isFlowBracket ch))

def isStrayColon (inFlow : Bool) : List Char → Bool
  | ':' :: d :: _ => inFlow && (d = ',' || d = '?' || isFlowBracket d)
  | _ => false

def plainPiece (inFlow : Bool) : List Char → Except Flaw (List Char)
  | [] => .ok []
  | ch :: rest =>
    if isBlank ch || isBreak ch then .ok []
    else if isStrayColon inFlow (ch :: rest) then .error .misplacedIndicator
    else if endsPlain inFlow (ch :: rest) then .ok []
    else (plainPiece inFlow rest).map (ch :: ·)

/-- A plain scalar: its text, whether a line break follows it, and the place after it and the gap.
-/
def plainBody (fuel : Nat) (inFlow : Bool) (indent : Int) (before : Gap) (c : Cursor) :
    Except Flaw (List Char × Bool × Cursor) :=
  match fuel with
  | 0 => .ok ([], before.isBroken, c)
  | fuel + 1 =>
    if c.atDocumentMark || c.rest.head? = some '#' then .ok ([], before.isBroken, c)
    else do
      let piece ← plainPiece inFlow c.rest
      let shown := if piece = [] then [] else before.text ++ piece
      let before := if piece = [] then before else Gap.none
      let c := c.advance piece.length
      if c.rest = [] || !endsWord c.rest then return (shown, before.isBroken, c)
      else
        let (gap, c) ← before.read (c.rest.length + 1) indent c
        if !inFlow && (c.column : Int) < indent then return (shown, gap.isBroken, c)
        else (plainBody fuel inFlow indent gap c).map fun r => (shown ++ r.1, r.2)

def readPlain (inFlow : Bool) (indent : Int) (c : Cursor) :
    Except Flaw (String × Bool × Cursor) :=
  (plainBody (c.rest.length + 1) inFlow indent Gap.none c).map fun r => (String.ofList r.1, r.2)

inductive Chomping where
  | strip | clip | keep
  deriving DecidableEq, Repr

def chomping? : List Char → Option Chomping
  | '+' :: _ => some .keep
  | '-' :: _ => some .strip
  | _ => none

/-- The indentation that a block scalar asks for; zero if it leaves it open. -/
def indentDigit (cs : List Char) : Except Flaw Nat :=
  match cs with
  | d :: _ => if d = '0' then .error .badBlockHeader
    else if '1' ≤ d && d ≤ '9' then .ok (d.toNat - 48) else .ok 0
  | [] => .ok 0

def blockHeader (c : Cursor) : Except Flaw (Chomping × Nat × Cursor) :=
  match chomping? c.rest with
  | some chomping => do
    let c := c.advance 1
    let n ← indentDigit c.rest
    return (chomping, n, if n = 0 then c else c.advance 1)
  | none => do
    let n ← indentDigit c.rest
    if n = 0 then return (.clip, 0, c)
    else
      let c := c.advance 1
      match chomping? c.rest with
      | some chomping => return (chomping, n, c.advance 1)
      | none => return (.clip, n, c)

/-- Empty lines and the indentation of the first other line: the breaks, the widest indentation and
the place of the first character that does not belong to them. -/
def blockBreaks (fuel : Nat) (indent widest : Nat) (c : Cursor) :
    Except Flaw (List Char × Nat × Cursor) :=
  match fuel with
  | 0 => .ok ([], widest, c)
  | fuel + 1 =>
    let blanks := (c.rest.takeWhile (· = ' ')).length
    let c := c.advance (if indent = 0 then blanks else min blanks (indent - c.column))
    let widest := max widest c.column
    if (indent = 0 || c.column < indent) && c.rest.head? = some '\t' then .error .badIndentation
    else if c.rest ≠ [] && endsLine c.rest then
      (blockBreaks fuel indent widest c.nextLine).map fun r => (c.breakText ++ r.1, r.2)
    else .ok ([], widest, c)

def blockLines (fuel : Nat) (literal : Bool) (indent : Nat) (leadingBreak trailing : List Char)
    (leadingBlank : Bool) (c : Cursor) :
    Except Flaw (List Char × List Char × List Char × Cursor) :=
  match fuel with
  | 0 => .ok ([], leadingBreak, trailing, c)
  | fuel + 1 =>
    if c.column ≠ indent || c.rest = [] then .ok ([], leadingBreak, trailing, c)
    else do
      let startsBlank := (c.rest.head?.map isBlank).getD false
      let isFolded := !literal && leadingBreak = ['\n'] && !leadingBlank && !startsBlank
      let join := if isFolded then if trailing = [] then [' '] else [] else leadingBreak
      let (text, c) := c.takeLine
      let break' := c.breakText
      let c := c.nextLine
      let (more, _, c) ← blockBreaks (c.rest.length + 1) indent 0 c
      let (body, lastBreak, last, c) ← blockLines fuel literal indent break' more startsBlank c
      return (join ++ trailing ++ text ++ body, lastBreak, last, c)

/-- A block scalar under a collection indented by `parent`. -/
def readBlock (literal : Bool) (parent : Int) (c : Cursor) : Except Flaw (String × Cursor) := do
  let (chomping, asked, c) ← blockHeader (c.advance 1)
  let c := c.skipBlanks.skipComment
  if !endsLine c.rest then .error .badBlockHeader
  else
    let c := c.nextLine
    let wanted := if asked = 0 then 0 else (max parent 0).toNat + asked
    let (breaks, widest, c) ← blockBreaks (c.rest.length + 1) wanted 0 c
    let indent := if wanted = 0 then max widest (max (parent + 1).toNat 1) else wanted
    let (text, lastBreak, last, c) ←
      blockLines (c.rest.length + 1) literal indent [] breaks false c
    let ending := match chomping with
      | .strip => []
      | .clip => lastBreak
      | .keep => lastBreak ++ last
    return (String.ofList (text ++ ending), c)

end Yaml
end ReleaseAudit
