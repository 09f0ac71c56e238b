import ReleaseAudit.Unicode.Property

/-! Texts inside quotes, with every character that does not show as itself written as an escape. -/
namespace ReleaseAudit
namespace Text

/-- The categories whose characters have no shape of their own: controls, format characters,
separators, and code points that are private or without a character. -/
def shapelessCategories : List Unicode.Category := [.cc, .cf, .cs, .co, .cn, .zl, .zp, .zs]

/-- The two sound marks of half width, which stand for themselves although they extend a character.
-/
def halfWidthMarks : List Char := ['\uff9e', '\uff9f']

def isShapeless (c : Char) : Bool :=
  (shapelessCategories.contains (Unicode.categoryOf c) && c ≠ ' ') ||
    (Unicode.graphemeExtend.contains c && !halfWidthMarks.contains c)

def quotedCharacter (c : Char) : List Char :=
  if c = '"' then ['\\', '"']
  else if c = '\\' then ['\\', '\\']
  else if c = '\n' then ['\\', 'n']
  else if c = '\r' then ['\\', 'r']
  else if c = '\t' then ['\\', 't']
  else if c = '\x00' then ['\\', '0']
  else if isShapeless c then ['\\', 'u', '\x7b'] ++ Nat.toDigits 16 c.toNat ++ ['\x7d']
  else [c]

def quoted (s : String) : String := String.ofList ('"' :: s.toList.flatMap quotedCharacter ++ ['"'])

end Text
end ReleaseAudit
