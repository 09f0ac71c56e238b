import ReleaseAudit.Text.Utf8
import ReleaseAudit.Decimal.Digits
import ReleaseAudit.Yaml.Scalar

/-! What stands before a node or a document: anchors, tags and directives. -/
namespace ReleaseAudit
namespace Yaml

/-- The bytes of a tag, which need not be UTF-8: escapes may write any byte. -/
abbrev Tag := List UInt8

def Tag.ofText (s : String) : Tag := s.toUTF8.toList

/-- A tag ends before its first zero byte. -/
def Tag.cut (t : Tag) : Tag := t.takeWhile (· ≠ 0)

/-- A tag as it is written: a handle that a directive may have bound, and what stands after it. -/
structure TagName where
  handle : String
  suffix : Tag
  deriving DecidableEq, Repr

inductive Directive where
  | version (major minor : Nat) | tag (handle : String) (text : Tag)
  deriving DecidableEq, Repr

def endsName : List Char → Bool
  | [] => true
  | c :: rest => endsWord (c :: rest) || "?:,]\x7d%@\x60".toList.contains c

def readAnchor (c : Cursor) : Except Flaw (String × Cursor) :=
  let (name, c) := (c.advance 1).span isNameCharacter
  if name = [] || !endsName c.rest then .error .badAnchor else .ok (String.ofList name, c)

def isTagCharacter (isFree : Bool) (c : Char) : Bool :=
  isNameCharacter c || ";/?:@&=+$.%!~*'()".toList.contains c || (isFree && ",[]".toList.contains c)

/-- How many bytes the encoding of a character takes that starts with this one. -/
def encodedWidth? (lead : Nat) : Option Nat :=
  if lead < 0x80 then some 1
  else if lead < 0xc0 then none
  else if lead < 0xe0 then some 2
  else if lead < 0xf0 then some 3
  else if lead < 0xf8 then some 4
  else none

def escapedByte? : List Char → Option Nat
  | '%' :: a :: b :: _ => do return (← Json.hexValue? a) * 16 + (← Json.hexValue? b)
  | _ => none

def escapedTail : Nat → List Char → Option (List UInt8)
  | 0, _ => some []
  | n + 1, cs => do
    let b ← escapedByte? cs
    if 0x80 ≤ b && b < 0xc0 then return b.toUInt8 :: (← escapedTail n (cs.drop 3)) else none

def escapedCharacter? (cs : List Char) : Option (List UInt8) := do
  let lead ← escapedByte? cs
  let width ← encodedWidth? lead
  return lead.toUInt8 :: (← escapedTail (width - 1) (cs.drop 3))

/-- The text of a tag: its bytes and the number of characters that write them. -/
def tagText (fuel : Nat) (isFree : Bool) (cs : List Char) : Except Flaw (Tag × Nat) :=
  match fuel, cs with
  | 0, _ => .ok ([], 0)
  | _ + 1, [] => .ok ([], 0)
  | fuel + 1, c :: rest =>
    if !isTagCharacter isFree c then .ok ([], 0)
    else if c = '%' then
      match escapedCharacter? (c :: rest) with
      | some bytes =>
        let used := 3 * bytes.length
        (tagText fuel isFree ((c :: rest).drop used)).map fun r => (bytes ++ r.1, used + r.2)
      | none => .error .badTag
    else (tagText fuel isFree rest).map fun r => (c.toNat.toUInt8 :: r.1, 1 + r.2)

def readTagText (isFree : Bool) (c : Cursor) : Except Flaw (Tag × Cursor) :=
  (tagText (c.rest.length + 1) isFree c.rest).map fun r => (r.1, c.advance r.2)

def readHandle (c : Cursor) : List Char × Cursor :=
  let (name, c) := (c.advance 1).span isNameCharacter
  if c.rest.head? = some '!' then ('!' :: name ++ ['!'], c.advance 1) else ('!' :: name, c)

def isClosedHandle (handle : List Char) : Bool :=
  1 < handle.length && handle.getLast? = some '!'

/-- A tag, from its exclamation mark on. Without a closed handle the mark itself is the handle;
the mark alone is a tag without one. -/
def readTagName (c : Cursor) : Except Flaw (TagName × Cursor) :=
  if (c.rest.drop 1).head? = some '<' then do
    let (text, c) ← readTagText true (c.advance 2)
    if text = [] || c.rest.head? ≠ some '>' then .error .badTag
    else return (⟨"", text.cut⟩, c.advance 1)
  else do
    let (handle, c) := readHandle c
    let (text, c) ← readTagText false c
    if isClosedHandle handle then
      if text = [] then .error .badTag
      else return (⟨String.ofList handle, text.cut⟩, c)
    else
      let suffix := Tag.cut (Tag.ofText (String.ofList (handle.drop 1)) ++ text)
      return (if suffix = [] then ⟨"", Tag.ofText "!"⟩ else ⟨"!", suffix⟩, c)

def readTag (inFlow : Bool) (c : Cursor) : Except Flaw (TagName × Cursor) := do
  let (tag, c) ← readTagName c
  if endsWord c.rest || (inFlow && c.rest.head? = some ',') then return (tag, c)
  else .error .badTag

def readVersionNumber (c : Cursor) : Except Flaw (Nat × Cursor) :=
  let (ds, c) := c.span Decimal.isDigit
  if ds = [] || 9 < ds.length then .error .badDirective else .ok (Decimal.ofDigits ds, c)

def readVersion (c : Cursor) : Except Flaw (Directive × Cursor) := do
  let (major, c) ← readVersionNumber c.skipBlanks
  if c.rest.head? ≠ some '.' then .error .badDirective
  else
    let (minor, c) ← readVersionNumber (c.advance 1)
    return (.version major minor, c)

def readTagDirective (c : Cursor) : Except Flaw (Directive × Cursor) := do
  let c := c.skipBlanks
  let (handle, c) := readHandle c
  if handle ≠ ['!'] && !isClosedHandle handle then .error .badDirective
  else if !((c.rest.head?.map isBlank).getD false) then .error .badDirective
  else
    let (text, c) ← readTagText true c.skipBlanks
    if text = [] || !endsWord c.rest then .error .badDirective
    else return (.tag (String.ofList handle) text.cut, c)

def readDirectiveValue (name : List Char) (c : Cursor) : Except Flaw (Directive × Cursor) :=
  if name = "YAML".toList then readVersion c
  else if name = "TAG".toList then
    if c.skipBlanks.rest.head? = some '!' then readTagDirective c else .error .badDirective
  else .error .badDirective

def readDirective (c : Cursor) : Except Flaw (Directive × Cursor) := do
  let (name, c) := (c.advance 1).span isNameCharacter
  if name = [] || !endsWord c.rest then .error .badDirective
  else
    let (d, c) ← readDirectiveValue name c
    let c := c.skipBlanks.skipComment
    if endsLine c.rest then return (d, c.nextLine) else .error .badDirective

end Yaml
end ReleaseAudit
