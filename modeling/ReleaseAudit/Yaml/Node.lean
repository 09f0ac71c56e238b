import ReleaseAudit.Yaml.Token

/-! The tree that a YAML document describes. Its aliases refer to nodes by number. -/
namespace ReleaseAudit
namespace Yaml

structure Properties where
  anchor : Option Nat
  tag : Option Tag
  deriving DecidableEq, Repr

inductive Node where
  | scalar (properties : Properties) (text : String) (isPlain : Bool)
  | alias (target : Nat)
  | sequence (properties : Properties) (items : List Node)
  | mapping (properties : Properties) (entries : List (Node × Node))
  deriving Repr

namespace Node

def empty : Node := .scalar ⟨none, none⟩ "" true

/-- The tokens still to be read, and the number that each name of an anchor stands for now. -/
structure Reading where
  tokens : List Token
  anchors : List (String × Nat)

abbrev Reader := StateT Reading (Except Flaw)

def peek : Reader (Option Token) := do return (← get).tokens.head?

def skip : Reader Unit := modify fun s => { s with tokens := s.tokens.drop 1 }

/-- Binds a name to the number of names in use. A name that is bound again gets a new number. -/
def bindAnchor (name : String) : Reader Nat := do
  let s ← get
  let n := s.anchors.length
  set { s with anchors := (name, n) :: s.anchors.filter (·.1 ≠ name) }
  return n

def findAnchor (name : String) : Reader Nat := do
  match (← get).anchors.lookup name with
  | some n => return n
  | none => throw .unknownAnchor

def expandTag (handles : List (String × Tag)) (t : TagName) : Except Flaw Tag :=
  if t.handle = "" then .ok t.suffix
  else match handles.lookup t.handle with
    | some text => .ok (text ++ t.suffix)
    | none => .error .badTag

def readAnchor? : Reader (Option Nat) := do
  match ← peek with
  | some (.anchor name) => skip; return some (← bindAnchor name)
  | _ => return none

def readTag? (handles : List (String × Tag)) : Reader (Option Tag) := do
  match ← peek with
  | some (.tag t) => skip; return some (← expandTag handles t)
  | _ => return none

def readProperties (handles : List (String × Tag)) : Reader Properties := do
  match ← readAnchor? with
  | some a => return ⟨some a, ← readTag? handles⟩
  | none =>
    match ← readTag? handles with
    | some tag => return ⟨← readAnchor?, some tag⟩
    | none => return ⟨none, none⟩

/-- The tokens in front of which an entry of a block sequence is empty. -/
def endsBlockItem : Option Token → Bool
  | some .blockEntry | some .blockEnd => true
  | _ => false

/-- The tokens in front of which a key, a value or an entry at its mapping's own indentation is
empty. -/
def endsBlockPart : Option Token → Bool
  | some .key | some .value | some .blockEnd => true
  | _ => false

def endsFlowPart (closing : Token) (t : Option Token) : Bool := t = some .flowEntry || t = some closing

def skipComma (isFirst : Bool) : Reader Unit := do
  if !isFirst then
    if (← peek) = some .flowEntry then skip else throw .unexpectedToken

def orEmpty (ends : Option Token → Bool) (read : Reader Node) : Reader Node := do
  if ends (← peek) then return .empty else read

def valueOrEmpty (ends : Option Token → Bool) (read : Reader Node) : Reader Node := do
  if (← peek) = some .value then skip; orEmpty ends read else return .empty

/-- A node under tag handles. Inside a mapping, a sequence may begin at the mapping's own
indentation. -/
def read (handles : List (String × Tag)) (fuel : Nat) (inBlock mayShareIndent : Bool) :
    Reader Node :=
  match fuel with
  | 0 => throw .unexpectedToken
  | fuel + 1 => do
    match ← peek with
    | some (.alias name) => skip; return .alias (← findAnchor name)
    | _ =>
      let properties ← readProperties handles
      match ← peek with
      | some (.scalar text isPlain) => skip; return .scalar properties text isPlain
      | some .flowSequence => skip; return .sequence properties (← flowItems fuel true)
      | some .flowMapping => skip; return .mapping properties (← flowEntries fuel true)
      | some .blockEntry =>
        if mayShareIndent then return .sequence properties (← sharedItems fuel)
        else orBare properties
      | some .blockSequence =>
        if inBlock then skip; return .sequence properties (← blockItems fuel)
        else orBare properties
      | some .blockMapping =>
        if inBlock then skip; return .mapping properties (← blockEntries fuel)
        else orBare properties
      | _ => orBare properties
where
  /-- A node that consists of its properties. -/
  orBare (properties : Properties) : Reader Node :=
    if properties = ⟨none, none⟩ then throw .unexpectedToken
    else return .scalar properties "" true
  blockItems (fuel : Nat) : Reader (List Node) :=
    match fuel with
    | 0 => throw .unexpectedToken
    | fuel + 1 => do
      match ← peek with
      | some .blockEntry =>
        skip
        let item ← orEmpty endsBlockItem (read handles fuel true false)
        return item :: (← blockItems fuel)
      | some .blockEnd => skip; return []
      | _ => throw .unexpectedToken
  sharedItems (fuel : Nat) : Reader (List Node) :=
    match fuel with
    | 0 => throw .unexpectedToken
    | fuel + 1 => do
      match ← peek with
      | some .blockEntry =>
        skip
        let ends t := endsBlockItem t || endsBlockPart t
        let item ← orEmpty ends (read handles fuel true false)
        return item :: (← sharedItems fuel)
      | _ => return []
  blockEntries (fuel : Nat) : Reader (List (Node × Node)) :=
    match fuel with
    | 0 => throw .unexpectedToken
    | fuel + 1 => do
      match ← peek with
      | some .key =>
        skip
        let key ← orEmpty endsBlockPart (read handles fuel true true)
        let value ← valueOrEmpty endsBlockPart (read handles fuel true true)
        return (key, value) :: (← blockEntries fuel)
      | some .blockEnd => skip; return []
      | _ => throw .unexpectedToken
  flowItems (fuel : Nat) (isFirst : Bool) : Reader (List Node) :=
    match fuel with
    | 0 => throw .unexpectedToken
    | fuel + 1 => do
      if (← peek) = some .flowSequenceEnd then skip; return []
      else
        skipComma isFirst
        match ← peek with
        | some .flowSequenceEnd => skip; return []
        | some .key =>
          skip
          let pair ← flowPair fuel
          return .mapping ⟨none, none⟩ [pair] :: (← flowItems fuel false)
        | _ =>
          let item ← read handles fuel false false
          return item :: (← flowItems fuel false)
  /-- A mapping of one entry without braces. An empty key takes the token after it along. -/
  flowPair (fuel : Nat) : Reader (Node × Node) :=
    match fuel with
    | 0 => throw .unexpectedToken
    | fuel + 1 => do
      let ends := endsFlowPart .flowSequenceEnd
      let next ← peek
      let key ← if next = some .value || ends next then do skip; pure .empty
        else read handles fuel false false
      return (key, ← valueOrEmpty ends (read handles fuel false false))
  flowEntries (fuel : Nat) (isFirst : Bool) : Reader (List (Node × Node)) :=
    match fuel with
    | 0 => throw .unexpectedToken
    | fuel + 1 => do
      if (← peek) = some .flowMappingEnd then skip; return []
      else
        skipComma isFirst
        let ends := endsFlowPart .flowMappingEnd
        match ← peek with
        | some .flowMappingEnd => skip; return []
        | some .key =>
          skip
          let key ← orEmpty (fun t => t = some .value || ends t) (read handles fuel false false)
          let value ← valueOrEmpty ends (read handles fuel false false)
          return (key, value) :: (← flowEntries fuel false)
        | _ =>
          let key ← read handles fuel false false
          return (key, .empty) :: (← flowEntries fuel false)

def readDirectives : List Token → List Directive × List Token
  | .directive d :: rest => ((d :: (readDirectives rest).1), (readDirectives rest).2)
  | rest => ([], rest)

def isVersion : Directive → Bool
  | .version _ _ => true
  | .tag _ _ => false

def isKnownVersion : Directive → Bool
  | .version major minor => major = 1 && (minor = 1 || minor = 2)
  | .tag _ _ => true

def boundHandles (ds : List Directive) : List (String × Tag) :=
  ds.filterMap fun
    | .tag handle text => some (handle, text)
    | .version _ _ => none

/-- The tag handles of a document: its own ones before the two that every document has. -/
def tagHandles (ds : List Directive) : Except Flaw (List (String × Tag)) :=
  let own := boundHandles ds
  if !ds.all isKnownVersion || 1 < (ds.filter isVersion).length || !(own.map (·.1)).Nodup then
    .error .badDirective
  else .ok (own ++ [("!", Tag.ofText "!"), ("!!", Tag.ofText "tag:yaml.org,2002:")])

def endsDocument : Option Token → Bool
  | none | some (.directive _) | some .documentStart | some .documentEnd => true
  | _ => false

def ofTokens (ts : List Token) : Except Flaw (Option Node) := do
  if ts = [] then return none
  else
    let (ds, ts) := readDirectives ts
    let handles ← tagHandles ds
    let read := read handles (2 * ts.length + 2) true false
    let (node, rest) ← match ts with
      | .documentStart :: ts => (orEmpty endsDocument read).run ⟨ts, []⟩
      | ts => if ds = [] then read.run ⟨ts, []⟩ else .error .unexpectedToken
    if rest.tokens.all (· = .documentEnd) then return some node else .error .severalDocuments

end Node
end Yaml
end ReleaseAudit
