import ReleaseAudit.Json
import ReleaseAudit.Decimal.Shortest

/-! The text of a JSON value, on one line or spread over lines with two blanks per level. -/
namespace ReleaseAudit
namespace Json

def hexDigit (n : Nat) : Char := if n < 10 then Char.ofNat (48 + n) else Char.ofNat (87 + n)

/-- A character inside quotes: quotes, backslashes and control characters are escaped. -/
def escape (c : Char) : List Char :=
  if c = '"' then ['\\', '"']
  else if c = '\\' then ['\\', '\\']
  else if c = '\n' then ['\\', 'n']
  else if c = '\r' then ['\\', 'r']
  else if c = '\t' then ['\\', 't']
  else if c = '\x08' then ['\\', 'b']
  else if c = '\x0c' then ['\\', 'f']
  else if c.toNat < 0x20 then ['\\', 'u', '0', '0', hexDigit (c.toNat / 16), hexDigit (c.toNat % 16)]
  else [c]

def quote (s : String) : String :=
  String.ofList ('"' :: s.toList.flatMap escape ++ ['"'])

mutual

def compact : Json → String
  | .null => "null"
  | .bool b => if b then "true" else "false"
  | .int i => Decimal.intText i
  | .float x => Decimal.documentNotation.write x
  | .str s => quote s
  | .arr items => "[" ++ compactItems items ++ "]"
  | .obj fields => "\x7b" ++ compactFields fields ++ "\x7d"

def compactItems : List Json → String
  | [] => ""
  | [v] => v.compact
  | v :: vs => v.compact ++ "," ++ compactItems vs

def compactFields : List (String × Json) → String
  | [] => ""
  | [f] => quote f.1 ++ ":" ++ f.2.compact
  | f :: fs => quote f.1 ++ ":" ++ f.2.compact ++ "," ++ compactFields fs

end

def newLine (level : Nat) : String := "\n" ++ String.ofList (List.replicate (2 * level) ' ')

mutual

def pretty (level : Nat) : Json → String
  | .arr [] => "[]"
  | .obj [] => "\x7b\x7d"
  | .arr (v :: vs) => "[" ++ prettyItems (level + 1) (v :: vs) ++ newLine level ++ "]"
  | .obj (f :: fs) => "\x7b" ++ prettyFields (level + 1) (f :: fs) ++ newLine level ++ "\x7d"
  | .null => "null"
  | .bool b => if b then "true" else "false"
  | .int i => Decimal.intText i
  | .float x => Decimal.documentNotation.write x
  | .str s => quote s

def prettyItems (level : Nat) : List Json → String
  | [] => ""
  | [v] => newLine level ++ v.pretty level
  | v :: vs => newLine level ++ v.pretty level ++ "," ++ prettyItems level vs

def prettyFields (level : Nat) : List (String × Json) → String
  | [] => ""
  | [f] => newLine level ++ quote f.1 ++ ": " ++ f.2.pretty level
  | f :: fs => newLine level ++ quote f.1 ++ ": " ++ f.2.pretty level ++ "," ++ prettyFields level fs

end

end Json
end ReleaseAudit
