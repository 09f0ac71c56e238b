import ReleaseAudit.Toml.Scalar

/-! TOML documents read line by line. -/
namespace ReleaseAudit
namespace Toml

def isBlank (c : Char) : Bool := c = ' ' || c = '\t'

def skipBlanks (cs : List Char) : List Char := cs.dropWhile isBlank

def isControl (c : Char) : Bool := (c.toNat < 0x20 && c ≠ '\t') || c = '\x7f'

def newLine? : List Char → Option (List Char)
  | '\n' :: cs => some cs
  | '\r' :: '\n' :: cs => some cs
  | _ => none

def skipComment (cs : List Char) : List Char :=
  if cs.head? = some '#' then cs.dropWhile fun c => !isControl c else cs

def skipLines (fuel : Nat) (cs : List Char) : List Char :=
  match fuel with
  | 0 => cs
  | fuel + 1 =>
    let cs := skipComment (skipBlanks cs)
    match newLine? cs with
    | some rest => skipLines fuel rest
    | none => cs

def endLine (cs : List Char) : Except Flaw (List Char) :=
  let cs := skipComment (skipBlanks cs)
  match newLine? cs with
  | some rest => .ok rest
  | none => if cs = [] then .ok [] else .error .badLine

/-- How many hexadecimal digits follow the letter of an escape. -/
def escapeWidth? : Char → Option Nat
  | 'x' => some 2
  | 'u' => some 4
  | 'U' => some 8
  | _ => none

def simpleEscape? : Char → Option Char
  | 'b' => some '\x08'
  | 't' => some '\t'
  | 'n' => some '\n'
  | 'f' => some '\x0c'
  | 'r' => some '\r'
  | 'e' => some '\x1b'
  | '"' => some '"'
  | '\\' => some '\\'
  | _ => none

def readEscape : List Char → Except Flaw (Char × List Char)
  | [] => .error .badEscape
  | c :: cs =>
    match simpleEscape? c, escapeWidth? c with
    | some d, _ => .ok (d, cs)
    | none, some width =>
      let ds := cs.take width
      match if ds.length = width then ds.mapM Json.hexValue? else none with
      | some vs =>
        let n := vs.foldl (fun n v => n * 16 + v) 0
        if n.isValidChar then .ok (Char.ofNat n, cs.drop width) else .error .badEscape
      | none => .error .badEscape
    | none, none => .error .badEscape

def stringBody (fuel : Nat) (isBasic : Bool) (cs : List Char) :
    Except Flaw (List Char × List Char) :=
  match fuel, cs with
  | 0, _ => .error .unclosed
  | _ + 1, [] => .error .unclosed
  | fuel + 1, c :: rest =>
    if c = (if isBasic then '"' else '\'') then .ok ([], rest)
    else if isControl c then .error .controlCharacter
    else if isBasic && c = '\\' then do
      let (d, rest) ← readEscape rest
      let (body, rest) ← stringBody fuel isBasic rest
      return (d :: body, rest)
    else do
      let (body, rest) ← stringBody fuel isBasic rest
      return (c :: body, rest)

def skipBreaks (fuel : Nat) (cs : List Char) : List Char :=
  match fuel with
  | 0 => cs
  | fuel + 1 =>
    let cs := skipBlanks cs
    match newLine? cs with
    | some rest => skipBreaks fuel rest
    | none => cs

/-- A string over several lines, after its first quotes. Three quotes end it, and up to two before
them belong to it. -/
def longBody (fuel : Nat) (isBasic : Bool) (cs : List Char) : Except Flaw (List Char × List Char) :=
  match fuel, cs with
  | 0, _ => .error .unclosed
  | _ + 1, [] => .error .unclosed
  | fuel + 1, c :: rest =>
    let quote := if isBasic then '"' else '\''
    let quotes := ((c :: rest).takeWhile (· = quote)).length
    if 3 ≤ quotes then
      let used := min quotes 5
      .ok (List.replicate (used - 3) quote, (c :: rest).drop used)
    else match newLine? (c :: rest) with
      | some after => do
        let (body, rest) ← longBody fuel isBasic after
        return ((if c = '\r' then ['\r', '\n'] else ['\n']) ++ body, rest)
      | none =>
        if isControl c then .error .controlCharacter
        else if isBasic && c = '\\' then
          if (newLine? (skipBlanks rest)).isSome then
            longBody fuel isBasic (skipBreaks (rest.length + 1) rest)
          else do
            let (d, rest) ← readEscape rest
            let (body, rest) ← longBody fuel isBasic rest
            return (d :: body, rest)
        else do
          let (body, rest) ← longBody fuel isBasic rest
          return (c :: body, rest)

def readString (cs : List Char) : Except Flaw (String × List Char) :=
  let fuel := cs.length + 1
  let body := match cs with
    | '"' :: '"' :: '"' :: rest => longBody fuel true ((newLine? rest).getD rest)
    | '\'' :: '\'' :: '\'' :: rest => longBody fuel false ((newLine? rest).getD rest)
    | '"' :: rest => stringBody fuel true rest
    | '\'' :: rest => stringBody fuel false rest
    | _ => .error .badString
  body.map fun r => (String.ofList r.1, r.2)

def isBareKeyCharacter (c : Char) : Bool := c.isAlphanum || c = '_' || c = '-'

def readKeyPart (cs : List Char) : Except Flaw (String × List Char) :=
  match cs with
  | '"' :: rest => (stringBody (cs.length + 1) true rest).map fun r => (String.ofList r.1, r.2)
  | '\'' :: rest => (stringBody (cs.length + 1) false rest).map fun r => (String.ofList r.1, r.2)
  | _ =>
    let part := cs.takeWhile isBareKeyCharacter
    if part = [] then .error .badKey
    else .ok (String.ofList part, cs.dropWhile isBareKeyCharacter)

/-- A key: the parts between its dots, and the text after the blanks behind it. -/
def readKey (fuel : Nat) (cs : List Char) : Except Flaw (List String × List Char) :=
  match fuel with
  | 0 => .error .badKey
  | fuel + 1 => do
    let (part, rest) ← readKeyPart (skipBlanks cs)
    match skipBlanks rest with
    | '.' :: rest =>
      let (parts, rest) ← readKey fuel rest
      return (part :: parts, rest)
    | rest => return ([part], rest)

/-- How deep arrays and inline tables may nest, and how many parts a key may have before its last.
-/
def maxDepth : Nat := 80

/-- A key, split into the way to it and its last part. -/
def readSplitKey (cs : List Char) : Except Flaw ((List String × String) × List Char) := do
  let (parts, rest) ← readKey (cs.length + 1) cs
  if maxDepth < parts.length then .error .tooDeep
  else return ((parts.dropLast, parts.getLastD ""), rest)

mutual

/-- A value and the text after it; `levels` brackets may still be opened. -/
def readValue (fuel levels : Nat) (cs : List Char) : Except Flaw (Value × List Char) :=
  match fuel with
  | 0 => .error .unclosed
  | fuel + 1 =>
    match cs with
    | '[' :: rest =>
      match levels with
      | 0 => .error .tooDeep
      | levels + 1 => (readItems fuel levels rest).map fun r => (.array false r.1, r.2)
    | '\x7b' :: rest =>
      match levels with
      | 0 => .error .tooDeep
      | levels + 1 => (readFields fuel levels [] rest).map fun r => (.table .inline r.1, r.2)
    | c :: _ =>
      if c = '"' || c = '\'' then (readString cs).map fun r => (.string r.1, r.2)
      else
        let (text, rest) := scalarText cs
        match scalar? text with
        | some v => .ok (v, rest)
        | none => .error .badValue
    | [] => .error .badValue

def readItems (fuel levels : Nat) (cs : List Char) : Except Flaw (List Value × List Char) :=
  match fuel with
  | 0 => .error .unclosed
  | fuel + 1 =>
    match skipLines (cs.length + 1) cs with
    | ']' :: rest => .ok ([], rest)
    | cs => do
      let (v, rest) ← readValue fuel levels cs
      match skipLines (rest.length + 1) rest with
      | ',' :: rest => (readItems fuel levels rest).map fun r => (v :: r.1, r.2)
      | ']' :: rest => return ([v], rest)
      | _ => .error .unclosed

def readFields (fuel levels : Nat) (fields : Fields) (cs : List Char) :
    Except Flaw (Fields × List Char) :=
  match fuel with
  | 0 => .error .unclosed
  | fuel + 1 =>
    match skipLines (cs.length + 1) cs with
    | '\x7d' :: rest => .ok (fields, rest)
    | cs => do
      let ((path, key), rest) ← readSplitKey cs
      match skipLines (rest.length + 1) rest with
      | '=' :: rest =>
        let (v, rest) ← readValue fuel levels (skipLines (rest.length + 1) rest)
        let fields ← fields.assign key v path
        match skipLines (rest.length + 1) rest with
        | ',' :: rest => readFields fuel levels fields rest
        | '\x7d' :: rest => return (fields, rest)
        | _ => .error .unclosed
      | _ => .error .badLine

end

inductive Statement where
  | assign (path : List String) (key : String) (v : Value)
  | table (path : List String) (key : String)
  | arrayTable (path : List String) (key : String)

def readHeader (isArray : Bool) (cs : List Char) : Except Flaw (Statement × List Char) := do
  let ((path, key), rest) ← readSplitKey cs
  match isArray, rest with
  | true, ']' :: ']' :: rest => return (.arrayTable path key, rest)
  | false, ']' :: rest => return (.table path key, rest)
  | _, _ => .error .unclosed

def readAssignment (cs : List Char) : Except Flaw (Statement × List Char) := do
  let ((path, key), rest) ← readSplitKey cs
  match rest with
  | '=' :: rest =>
    let rest := skipBlanks rest
    let (v, rest) ← readValue (2 * rest.length + 2) maxDepth rest
    return (.assign path key v, rest)
  | _ => .error .badLine

def readStatement : List Char → Except Flaw (Statement × List Char)
  | '[' :: '[' :: cs => readHeader true cs
  | '[' :: cs => readHeader false cs
  | cs => readAssignment cs

def readStatements (fuel : Nat) (cs : List Char) : Except Flaw (List Statement) :=
  match fuel with
  | 0 => .error .badLine
  | fuel + 1 =>
    match skipLines (cs.length + 1) cs with
    | [] => .ok []
    | cs => do
      let (s, rest) ← readStatement cs
      return s :: (← readStatements fuel (← endLine rest))

/-- The values that are assigned before the next header, and the statements from there on. -/
def splitSection : List Statement → List ((List String × String) × Value) × List Statement
  | .assign path key v :: rest => (((path, key), v) :: (splitSection rest).1, (splitSection rest).2)
  | rest => ([], rest)

def fill (assignments : List ((List String × String) × Value)) (fields : Fields) :
    Except Flaw Fields :=
  assignments.foldlM (fun fields a => fields.assign a.1.2 a.2 a.1.1) fields

def addSections (fuel : Nat) (statements : List Statement) (fields : Fields) : Except Flaw Fields :=
  match fuel, statements with
  | _, [] => .ok fields
  | 0, _ => .ok fields
  | fuel + 1, s :: rest =>
    let (body, rest) := splitSection rest
    match s with
    | .table path key => do
      addSections fuel rest (← fields.within (Fields.openTable (fill body) key) path)
    | .arrayTable path key => do
      addSections fuel rest (← fields.within (Fields.appendTable (fill body) key) path)
    | .assign path key v => do addSections fuel rest (← fill (((path, key), v) :: body) fields)

/-- Reads a document. A byte order mark may stand before it. -/
def parse (text : String) : Except Flaw Fields := do
  let cs := match text.toList with
    | '\ufeff' :: cs => cs
    | cs => cs
  let statements ← readStatements (cs.length + 1) cs
  addSections (statements.length + 1) statements []

end Toml
end ReleaseAudit
