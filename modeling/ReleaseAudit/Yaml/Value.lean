import ReleaseAudit.Decimal.Reader
import ReleaseAudit.Yaml.Node

/-! The JSON value of a YAML document. What a plain scalar stands for is read off its text. -/
namespace ReleaseAudit
namespace Yaml

def isNullText (s : String) : Bool := s = "null" || s = "Null" || s = "NULL" || s = "~"

def boolOf? (s : String) : Option Bool :=
  if s = "true" || s = "True" || s = "TRUE" then some true
  else if s = "false" || s = "False" || s = "FALSE" then some false
  else none

def natOf? (base : Nat) (cs : List Char) : Option Nat :=
  if cs = [] then none
  else cs.foldl (fun n c => do
    let d ← Json.hexValue? c
    if d < base then return (← n) * base + d else none) (some 0)

def isSign (c : Char) : Bool := c = '+' || c = '-'

def hasLeadingZero (cs : List Char) : Bool :=
  let ds := match cs with
    | c :: rest => if isSign c then rest else c :: rest
    | [] => []
  1 < ds.length && ds.head? = some '0' && ds.all Decimal.isDigit

def markedNat? : List Char → Option Nat
  | '0' :: 'x' :: ds => natOf? 16 ds
  | '0' :: 'o' :: ds => natOf? 8 ds
  | '0' :: 'b' :: ds => natOf? 2 ds
  | _ => none

def intOf? (cs : List Char) : Option Int :=
  let (negative, ds) := Decimal.readSign cs
  match markedNat? ds with
  | some n => some (if negative then -(n : Int) else n)
  | none =>
    if hasLeadingZero cs then none
    else (natOf? 10 ds).map fun n => if negative then -(n : Int) else n

def isInfinityText (s : String) : Bool := s = ".inf" || s = ".Inf" || s = ".INF"

def isNanText (s : String) : Bool := s = ".nan" || s = ".NaN" || s = ".NAN"

/-- The float that a text stands for. Infinities and what is no number are no JSON values. -/
def floatOf? (cs : List Char) : Option Json :=
  let (_, unsigned) := Decimal.readSign cs
  if isInfinityText (String.ofList unsigned) || isNanText (String.ofList cs) then some .null
  else match Decimal.readFloat? cs with
    | some x => if x.isFinite then some (.float x) else none
    | none => none

/-- An integer that sixty-four bits hold. A wider one of up to 128 bits is refused, and one that is
wider still is none. -/
def intValue? (i : Int) : Option (Except Flaw Json) :=
  if -(Decimal.twoTo 63 : Int) ≤ i && i < Decimal.twoTo 64 then some (.ok (.int i))
  else if -(Decimal.twoTo 127 : Int) ≤ i && i < Decimal.twoTo 128 then
    some (.error .unreadableScalar)
  else none

def floatOrText (s : String) : Json :=
  if hasLeadingZero s.toList then .str s else (floatOf? s.toList).getD (.str s)

def plainValue (s : String) : Except Flaw Json :=
  if s = "" || isNullText s then .ok .null
  else match boolOf? s with
    | some b => .ok (.bool b)
    | none => ((intOf? s.toList).bind intValue?).getD (.ok (floatOrText s))

def commonTag (name : String) : Tag := Tag.ofText ("tag:yaml.org,2002:" ++ name)

/-- Whether a tag is private to an application: an exclamation mark begins it. -/
def isLocalTag (t : Tag) : Bool := t.head? = some 0x21

def hasLocalName (t : Tag) : Bool :=
  isLocalTag t && (Text.Utf8.decode? (if t.length = 1 then t else t.drop 1)).isSome

def orUnreadable (v : Option Json) : Except Flaw Json :=
  match v with
  | some v => .ok v
  | none => .error .unreadableScalar

/-- What a scalar under a tag stands for: tags of types it could not have otherwise leave it a
text. -/
def taggedValue (t : Tag) (s : String) : Except Flaw Json :=
  if t = commonTag "bool" then orUnreadable ((boolOf? s).map .bool)
  else if t = commonTag "int" then
    ((intOf? s.toList).bind intValue?).getD (.error .unreadableScalar)
  else if t = commonTag "float" then orUnreadable (floatOf? s.toList)
  else if t = commonTag "null" then orUnreadable (if isNullText s then some .null else none)
  else .ok (.str s)

def untaggedValue (s : String) (isPlain : Bool) : Except Flaw Json :=
  if isPlain then plainValue s else .ok (.str s)

def scalarValue (tag : Option Tag) (s : String) (isPlain : Bool) : Except Flaw Json :=
  match tag with
  | some t =>
    if hasLocalName t then .error .unknownTag
    else if isLocalTag t then untaggedValue s isPlain
    else taggedValue t s
  | none => untaggedValue s isPlain

namespace Node

mutual

/-- The nodes of a tree under the numbers of their anchors, in the order of the document. -/
def anchored : Node → List (Nat × Node)
  | .scalar p s isPlain => own p (.scalar p s isPlain)
  | .alias _ => []
  | .sequence p items => own p (.sequence p items) ++ anchoredItems items
  | .mapping p entries => own p (.mapping p entries) ++ anchoredEntries entries

def own (p : Properties) (n : Node) : List (Nat × Node) :=
  match p.anchor with
  | some a => [(a, n)]
  | none => []

def anchoredItems : List Node → List (Nat × Node)
  | [] => []
  | n :: ns => n.anchored ++ anchoredItems ns

def anchoredEntries : List (Node × Node) → List (Nat × Node)
  | [] => []
  | e :: es => e.1.anchored ++ e.2.anchored ++ anchoredEntries es

end

mutual

def size : Node → Nat
  | .scalar _ _ _ => 1
  | .alias _ => 1
  | .sequence _ items => sizeItems items + 2
  | .mapping _ entries => sizeEntries entries + 2

def sizeItems : List Node → Nat
  | [] => 0
  | n :: ns => n.size + sizeItems ns

def sizeEntries : List (Node × Node) → Nat
  | [] => 0
  | e :: es => e.1.size + e.2.size + sizeEntries es

end

abbrev Counter := StateT Nat (Except Flaw)

/-- The node itself, or the one that an alias refers to. Aliases may be followed `limit` times. -/
def follow (targets : List (Nat × Node)) (limit : Nat) : Node → Counter Node
  | .alias n => do
    let used := (← get) + 1
    if limit < used then throw .tooManyAliases
    set used
    match targets.lookup n with
    | some node => return node
    | none => throw .unknownAnchor
  | node => return node

def keyText : Node → Except Flaw String
  | .scalar _ s _ => .ok s
  | _ => .error .badKey

def refuseLocalTag (p : Properties) : Except Flaw Unit :=
  if (p.tag.map hasLocalName).getD false then .error .unknownTag else .ok ()

/-- The value of a node. Collections nest less deep than `levels`. -/
def toJson (targets : List (Nat × Node)) (limit : Nat) (levels : Nat) (node : Node) : Counter Json :=
  match levels with
  | 0 => throw .tooDeep
  | levels + 1 => do
    match ← follow targets limit node with
    | .scalar p s isPlain => scalarValue p.tag s isPlain
    | .alias _ => throw .unknownAnchor
    | .sequence p items =>
      refuseLocalTag p
      if levels = 0 then throw .tooDeep
      return .arr (← items.mapM (toJson targets limit levels))
    | .mapping p entries =>
      refuseLocalTag p
      if levels = 0 then throw .tooDeep
      let fields ← entries.mapM fun e => do
        let key ← keyText (← follow targets limit e.1)
        return (key, ← toJson targets limit levels e.2)
      return Json.ofFields fields

/-- The value of a document. Of several nodes under one number aliases mean the last. -/
def value (node : Node) : Except Flaw Json :=
  (node.toJson node.anchored.reverse (100 * node.size) 129).run' 0

end Node

def parse (text : String) : Except Flaw Json := do
  match ← Node.ofTokens (← tokens text) with
  | some node => node.value
  | none => return .null

end Yaml
end ReleaseAudit
