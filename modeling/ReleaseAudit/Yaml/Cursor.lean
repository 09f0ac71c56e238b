import ReleaseAudit.Text.Utf8

/-! A place in a YAML text, counted in lines and columns, and the classes of characters that decide
where tokens end. -/
namespace ReleaseAudit
namespace Yaml

inductive Flaw where
  | forbiddenCharacter | unexpectedEnd | badIndentation | missingColon | misplacedIndicator
  | badDirective | badAnchor | badTag | badEscape | badBlockHeader | documentMarkInScalar
  | unknownCharacter | unexpectedToken | severalDocuments | unknownAnchor | tooDeep | tooManyAliases
  | unknownTag | unreadableScalar | badKey
  deriving DecidableEq, Repr

def Flaw.message : Flaw → String
  | .forbiddenCharacter => "control characters are not allowed"
  | .unexpectedEnd => "found unexpected end of stream"
  | .badIndentation => "found a tab character that violates indentation"
  | .missingColon => "could not find expected ':'"
  | .misplacedIndicator => "block entries are not allowed in this context"
  | .badDirective => "found a malformed directive"
  | .badAnchor => "did not find expected alphabetic or numeric character"
  | .badTag => "found a malformed tag"
  | .badEscape => "found unknown escape character"
  | .badBlockHeader => "did not find expected comment or line break"
  | .documentMarkInScalar => "found unexpected document indicator"
  | .unknownCharacter => "found character that cannot start any token"
  | .unexpectedToken => "did not find expected node content"
  | .severalDocuments => "deserializing from YAML containing more than one document is not supported"
  | .unknownAnchor => "unknown anchor"
  | .tooDeep => "recursion limit exceeded"
  | .tooManyAliases => "repetition limit exceeded"
  | .unknownTag => "invalid type: enum, expected any valid JSON value"
  | .unreadableScalar => "invalid value for its tag"
  | .badKey => "invalid type of key, expected a string"

def isAllowed (c : Char) : Bool :=
  let n := c.toNat
  n = 0x09 || n = 0x0a || n = 0x0d || (0x20 ≤ n && n ≤ 0x7e) || n = 0x85 ||
    (0xa0 ≤ n && n ≤ 0xd7ff) || (0xe000 ≤ n && n ≤ 0xfffd) || 0x10000 ≤ n

def isBlank (c : Char) : Bool := c = ' ' || c = '\t'

def isBreak (c : Char) : Bool :=
  c = '\n' || c = '\r' || c = '\u0085' || c = '\u2028' || c = '\u2029'

def isNameCharacter (c : Char) : Bool :=
  ('0' ≤ c && c ≤ '9') || ('A' ≤ c && c ≤ 'Z') || ('a' ≤ c && c ≤ 'z') || c = '-' || c = '_'

def endsWord : List Char → Bool
  | [] => true
  | c :: _ => isBlank c || isBreak c

def endsLine : List Char → Bool
  | [] => true
  | c :: _ => isBreak c

/-- What is left of the text, and the place in it: the bytes before it, its line and its column. -/
structure Cursor where
  rest : List Char
  index : Nat
  line : Nat
  column : Nat
  deriving DecidableEq, Repr

namespace Cursor

def start (cs : List Char) : Cursor := ⟨cs, 0, 0, 0⟩

def advance (c : Cursor) (n : Nat) : Cursor :=
  { c with
    rest := c.rest.drop n
    index := c.index + Text.Utf8.size (c.rest.take n)
    column := c.column + n }

/-- Past a line break, if there is one. A carriage return and the line feed after it are one. -/
def nextLine (c : Cursor) : Cursor :=
  match c.rest with
  | '\r' :: '\n' :: rest => ⟨rest, c.index + 2, c.line + 1, 0⟩
  | b :: rest => if isBreak b then ⟨rest, c.index + b.utf8Size, c.line + 1, 0⟩ else c
  | [] => c

/-- What a line break adds to a scalar: a line feed, unless it is a separator of Unicode's own. -/
def breakText (c : Cursor) : List Char :=
  match c.rest with
  | b :: _ => if b = '\u2028' || b = '\u2029' then [b] else if isBreak b then ['\n'] else []
  | [] => []

/-- The characters up to one that fails the test, and the place of that one. -/
def span (c : Cursor) (p : Char → Bool) : List Char × Cursor :=
  let taken := c.rest.takeWhile p
  (taken, c.advance taken.length)

def skipBlanks (c : Cursor) : Cursor := (c.span isBlank).2

def takeLine (c : Cursor) : List Char × Cursor := c.span fun ch => !isBreak ch

/-- Past a byte order mark at the start of a line, which counts as a column. -/
def skipMark (c : Cursor) : Cursor :=
  if c.column = 0 && c.rest.head? = some '\ufeff' then c.advance 1 else c

def skipComment (c : Cursor) : Cursor := if c.rest.head? = some '#' then c.takeLine.2 else c

def atMark (c : Cursor) (m : Char) : Bool :=
  c.column = 0 && c.rest.take 3 = [m, m, m] && endsWord (c.rest.drop 3)

def atDocumentMark (c : Cursor) : Bool := c.atMark '-' || c.atMark '.'

end Cursor
end Yaml
end ReleaseAudit
