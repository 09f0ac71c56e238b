import ReleaseAudit.Yaml.Property

/-! The tokens of a YAML text. A text that turns out to be a key only at the colon after it gets its
mark afterwards, so the scanner remembers where such a key may have begun. -/
namespace ReleaseAudit
namespace Yaml

inductive Token where
  | directive (d : Directive) | documentStart | documentEnd
  | blockSequence | blockMapping | blockEnd
  | flowSequence | flowSequenceEnd | flowMapping | flowMappingEnd
  | blockEntry | flowEntry | key | value
  | anchor (name : String) | alias (name : String) | tag (name : TagName)
  | scalar (text : String) (isPlain : Bool)
  deriving DecidableEq, Repr

/-- A place at which a key may have begun, and the number of tokens before it. -/
structure KeyStart where
  isRequired : Bool
  before : Nat
  index : Nat
  line : Nat
  column : Nat
  deriving DecidableEq, Repr

/-- Tokens are kept newest first. Each open flow collection hides the key start around it. -/
structure Scanner where
  cursor : Cursor
  indent : Int
  outerIndents : List Int
  mayStartKey : Bool
  keyStart : Option KeyStart
  outerKeyStarts : List (Option KeyStart)
  tokens : List Token
  deriving Repr

namespace Scanner

def start (cs : List Char) : Scanner := ⟨Cursor.start cs, -1, [], true, none, [], []⟩

def inFlow (s : Scanner) : Bool := !s.outerKeyStarts.isEmpty

def add (s : Scanner) (t : Token) : Scanner := { s with tokens := t :: s.tokens }

def insert (s : Scanner) (before : Nat) (t : Token) : Scanner :=
  let late := s.tokens.length - before
  { s with tokens := s.tokens.take late ++ t :: s.tokens.drop late }

def advance (s : Scanner) (n : Nat) : Scanner := { s with cursor := s.cursor.advance n }

def allowKey (s : Scanner) (b : Bool) : Scanner := { s with mayStartKey := b }

/-- Past blanks, comments and line breaks. A line may start with a byte order mark. -/
def skipGap (fuel : Nat) (s : Scanner) : Scanner :=
  match fuel with
  | 0 => s
  | fuel + 1 =>
    let takesTabs := s.inFlow || !s.mayStartKey
    let (_, c) := s.cursor.skipMark.span fun ch => ch = ' ' || (takesTabs && ch = '\t')
    let c := c.skipComment
    if c.rest ≠ [] && endsLine c.rest then
      skipGap fuel { s with cursor := c.nextLine, mayStartKey := s.mayStartKey || !s.inFlow }
    else { s with cursor := c }

/-- A key ends on its line, within 1024 bytes. -/
def isStale (c : Cursor) (k : KeyStart) : Bool := k.line < c.line || k.index + 1024 < c.index

/-- Forgets a key start that is too far back. -/
def refresh (c : Cursor) : Option KeyStart → Except Flaw (Option KeyStart)
  | some k =>
    if !isStale c k then .ok (some k)
    else if k.isRequired then .error .missingColon
    else .ok none
  | none => .ok none

def dropStaleKeys (s : Scanner) : Except Flaw Scanner := do
  return { s with
    keyStart := ← refresh s.cursor s.keyStart
    outerKeyStarts := ← s.outerKeyStarts.mapM (refresh s.cursor) }

def dropKey (s : Scanner) : Except Flaw Scanner :=
  match s.keyStart with
  | some k => if k.isRequired then .error .missingColon else .ok { s with keyStart := none }
  | none => .ok s

def saveKey (s : Scanner) : Except Flaw Scanner :=
  if s.mayStartKey then do
    let s ← s.dropKey
    let isRequired := !s.inFlow && s.indent = s.cursor.column
    let c := s.cursor
    return { s with keyStart := some ⟨isRequired, s.tokens.length, c.index, c.line, c.column⟩ }
  else .ok s

/-- Closes the block collections of these indentations that are indented more than `column`. -/
def close (column indent : Int) (outer : List Int) (s : Scanner) : Scanner :=
  match outer with
  | [] => { s with indent, outerIndents := [] }
  | i :: outer =>
    if column < indent then close column i outer (s.add .blockEnd)
    else { s with indent, outerIndents := i :: outer }

def unroll (s : Scanner) (column : Int) : Scanner :=
  if s.inFlow then s else close column s.indent s.outerIndents s

/-- Opens a block collection at a column that lies to the right of the open ones. -/
def roll (s : Scanner) (column : Nat) (before : Nat) (t : Token) : Scanner :=
  if !s.inFlow && s.indent < column then
    { s.insert before t with indent := column, outerIndents := s.indent :: s.outerIndents }
  else s

def rollHere (s : Scanner) (t : Token) : Except Flaw Scanner :=
  if s.inFlow then .ok s
  else if !s.mayStartKey then .error .misplacedIndicator
  else .ok (s.roll s.cursor.column s.tokens.length t)

/-- Before a directive or a mark of a document. -/
def closeDocument (s : Scanner) : Except Flaw Scanner := do
  return (← (s.unroll (-1)).dropKey).allowKey false

def fetchDirective (s : Scanner) : Except Flaw Scanner := do
  let s ← s.closeDocument
  let (d, c) ← readDirective s.cursor
  return { s with cursor := c }.add (.directive d)

def fetchMark (s : Scanner) (t : Token) : Except Flaw Scanner := do
  return ((← s.closeDocument).add t).advance 3

def fetchFlowStart (s : Scanner) (t : Token) : Except Flaw Scanner := do
  let s ← s.saveKey
  let s := { s with keyStart := none, outerKeyStarts := s.keyStart :: s.outerKeyStarts }
  return ((s.allowKey true).add t).advance 1

def fetchFlowEnd (s : Scanner) (t : Token) : Except Flaw Scanner := do
  let s ← s.dropKey
  let s := match s.outerKeyStarts with
    | k :: outer => { s with keyStart := k, outerKeyStarts := outer }
    | [] => s
  return ((s.allowKey false).add t).advance 1

def fetchFlowEntry (s : Scanner) : Except Flaw Scanner := do
  return (((← s.dropKey).allowKey true).add .flowEntry).advance 1

def fetchBlockEntry (s : Scanner) : Except Flaw Scanner := do
  let s ← s.rollHere .blockSequence
  return (((← s.dropKey).allowKey true).add .blockEntry).advance 1

def fetchKey (s : Scanner) : Except Flaw Scanner := do
  let s ← s.rollHere .blockMapping
  return (((← s.dropKey).allowKey (!s.inFlow)).add .key).advance 1

def fetchValue (s : Scanner) : Except Flaw Scanner :=
  match s.keyStart with
  | some k =>
    let s := (s.insert k.before .key).roll k.column k.before .blockMapping
    .ok ((({ s with keyStart := none }.allowKey false).add .value).advance 1)
  | none => do
    let s ← s.rollHere .blockMapping
    return ((s.allowKey (!s.inFlow)).add .value).advance 1

def fetchAnchor (s : Scanner) (make : String → Token) : Except Flaw Scanner := do
  let s ← s.saveKey
  let (name, c) ← readAnchor s.cursor
  return ({ s with cursor := c }.allowKey false).add (make name)

def fetchTag (s : Scanner) : Except Flaw Scanner := do
  let s ← s.saveKey
  let (t, c) ← readTag s.inFlow s.cursor
  return ({ s with cursor := c }.allowKey false).add (.tag t)

def fetchBlockScalar (s : Scanner) (literal : Bool) : Except Flaw Scanner := do
  let s ← s.dropKey
  let (text, c) ← readBlock literal s.indent s.cursor
  return ({ s with cursor := c }.allowKey true).add (.scalar text false)

def fetchQuoted (s : Scanner) (single : Bool) : Except Flaw Scanner := do
  let s ← s.saveKey
  let (text, c) ← readQuoted single s.cursor
  return ({ s with cursor := c }.allowKey false).add (.scalar text false)

def fetchPlain (s : Scanner) : Except Flaw Scanner := do
  let s ← s.saveKey
  let (text, isBroken, c) ← readPlain s.inFlow (s.indent + 1) s.cursor
  return ({ s with cursor := c }.allowKey isBroken).add (.scalar text true)

def isIndicator (c : Char) : Bool := "-?:,[]\x7b\x7d#&*!|>'\"%@\x60".toList.contains c

def startsPlain (inFlow : Bool) : List Char → Bool
  | [] => false
  | c :: rest =>
    !(endsWord (c :: rest) || isIndicator c) ||
      (c = '-' && !((rest.head?.map isBlank).getD false)) ||
      (!inFlow && (c = '?' || c = ':') && !endsWord rest)

/-- The next token that is no directive or mark of a document. -/
def fetchInside (s : Scanner) : Except Flaw Scanner :=
  match s.cursor.rest with
  | [] => .ok s
  | c :: rest =>
    if c = '[' then s.fetchFlowStart .flowSequence
    else if c = '\x7b' then s.fetchFlowStart .flowMapping
    else if c = ']' then s.fetchFlowEnd .flowSequenceEnd
    else if c = '\x7d' then s.fetchFlowEnd .flowMappingEnd
    else if c = ',' then s.fetchFlowEntry
    else if c = '-' && endsWord rest then s.fetchBlockEntry
    else if c = '?' && (s.inFlow || endsWord rest) then s.fetchKey
    else if c = ':' && (s.inFlow || endsWord rest) then s.fetchValue
    else if c = '*' then s.fetchAnchor .alias
    else if c = '&' then s.fetchAnchor .anchor
    else if c = '!' then s.fetchTag
    else if c = '|' && !s.inFlow then s.fetchBlockScalar true
    else if c = '>' && !s.inFlow then s.fetchBlockScalar false
    else if c = '\'' then s.fetchQuoted true
    else if c = '"' then s.fetchQuoted false
    else if startsPlain s.inFlow (c :: rest) then s.fetchPlain
    else .error .unknownCharacter

def fetch (s : Scanner) : Except Flaw Scanner :=
  if s.cursor.column = 0 && s.cursor.rest.head? = some '%' then s.fetchDirective
  else if s.cursor.atMark '-' then s.fetchMark .documentStart
  else if s.cursor.atMark '.' then s.fetchMark .documentEnd
  else s.fetchInside

def run (fuel : Nat) (s : Scanner) : Except Flaw Scanner :=
  match fuel with
  | 0 => .ok s
  | fuel + 1 => do
    let s ← (s.skipGap (s.cursor.rest.length + 1)).dropStaleKeys
    if s.cursor.rest = [] then (s.unroll (-1)).dropKey
    else (← (s.unroll s.cursor.column).fetch).run fuel

end Scanner

def withoutOrderMark (cs : List Char) : List Char :=
  if cs.head? = some '\ufeff' then cs.drop 1 else cs

def tokens (text : String) : Except Flaw (List Token) :=
  let cs := withoutOrderMark text.toList
  if !cs.all isAllowed then .error .forbiddenCharacter
  else (Scanner.run (cs.length + 1) (Scanner.start cs)).map (·.tokens.reverse)

end Yaml
end ReleaseAudit
