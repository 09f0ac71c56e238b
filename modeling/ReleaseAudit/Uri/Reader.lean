import ReleaseAudit.Host
import ReleaseAudit.Text.Utf8
import ReleaseAudit.Uri

/-! References as they are written. Those of the international kind may hold characters of all
scripts. -/
namespace ReleaseAudit
namespace Uri

def isSubDelimiter (c : Char) : Bool := "!$&'()*+,;=".toList.contains c

def isInternational (c : Char) : Bool :=
  let n := c.toNat
  (0xa0 ≤ n && n ≤ 0xd7ff) || (0xf900 ≤ n && n ≤ 0xfdcf) || (0xfdf0 ≤ n && n ≤ 0xffef) ||
    (0x10000 ≤ n && n ≤ 0xefffd && n % 0x10000 ≤ 0xfffd && !(0xe0000 ≤ n && n < 0xe1000))

def isPrivate (c : Char) : Bool :=
  let n := c.toNat
  (0xe000 ≤ n && n ≤ 0xf8ff) || (0xf0000 ≤ n && n % 0x10000 ≤ 0xfffd)

/-- Whether a text holds only characters that pass a test, and escapes. -/
def holdsOnly (p : Char → Bool) : List Char → Bool
  | [] => true
  | '%' :: a :: b :: cs =>
    (Json.hexValue? a).isSome && (Json.hexValue? b).isSome && holdsOnly p cs
  | c :: cs => c ≠ '%' && p c && holdsOnly p cs

def isNameCharacter (anyScript : Bool) (c : Char) : Bool :=
  isUnreserved c || isSubDelimiter c || (anyScript && isInternational c)

def isPathCharacter (anyScript : Bool) (c : Char) : Bool :=
  isNameCharacter anyScript c || c = ':' || c = '@' || c = '/'

def isFragmentCharacter (anyScript : Bool) (c : Char) : Bool :=
  isPathCharacter anyScript c || c = '?'

def isQueryCharacter (anyScript : Bool) (c : Char) : Bool :=
  isFragmentCharacter anyScript c || (anyScript && isPrivate c)

def isFutureAddress : List Char → Bool
  | 'v' :: cs | 'V' :: cs =>
    let version := cs.takeWhile (· ≠ '.')
    let address := (cs.dropWhile (· ≠ '.')).drop 1
    version ≠ [] && version.all (fun c => (Json.hexValue? c).isSome) && address ≠ [] &&
      address.all fun c => isUnreserved c || isSubDelimiter c || c = ':'
  | _ => false

def isHost (anyScript : Bool) (cs : List Char) : Bool :=
  match cs with
  | '[' :: inner =>
    inner.getLast? = some ']' && (Host.isV6 inner.dropLast || isFutureAddress inner.dropLast)
  | cs => holdsOnly (isNameCharacter anyScript) cs

def isAuthority (anyScript : Bool) (cs : List Char) : Bool :=
  let (user, rest) := splitUser cs
  let (host, _) := splitPort rest
  holdsOnly (fun c => isNameCharacter anyScript c || c = ':') user.dropLast && isHost anyScript host

def isScheme (cs : List Char) : Bool :=
  ((cs.head?.map Char.isAlpha).getD false) &&
    cs.all fun c => c.isAlphanum || c = '+' || c = '-' || c = '.'

def cut (sign : Char) (cs : List Char) : List Char × Option (List Char) :=
  match cs.dropWhile (· ≠ sign) with
  | _ :: rest => (cs.takeWhile (· ≠ sign), some rest)
  | [] => (cs, none)

/-- The scheme, if a colon comes before any separator, and the rest. -/
def cutScheme (cs : List Char) : Option (List Char) × List Char :=
  match (cs.dropWhile fun c => c ≠ ':' && c ≠ '/') with
  | ':' :: rest => (some (cs.takeWhile (· ≠ ':')), rest)
  | _ => (none, cs)

def cutAuthority : List Char → Option (List Char) × List Char
  | '/' :: '/' :: cs => (some (cs.takeWhile (· ≠ '/')), cs.dropWhile (· ≠ '/'))
  | cs => (none, cs)

def parse? (anyScript : Bool) (s : String) : Option Uri :=
  let (cs, fragment) := cut '#' s.toList
  let (cs, query) := cut '?' cs
  let (scheme, cs) := cutScheme cs
  let (authority, path) := cutAuthority cs
  if ((scheme.map isScheme).getD true) && ((authority.map (isAuthority anyScript)).getD true) &&
      holdsOnly (isPathCharacter anyScript) path &&
      ((query.map (holdsOnly (isQueryCharacter anyScript))).getD true) &&
      ((fragment.map (holdsOnly (isFragmentCharacter anyScript))).getD true) then
    some ⟨scheme, authority, path, query, fragment⟩
  else none

def unescapedBytes : List Char → List UInt8
  | '%' :: a :: b :: cs =>
    match Json.hexValue? a, Json.hexValue? b with
    | some m, some n => (16 * m + n).toUInt8 :: unescapedBytes cs
    | _, _ => 0x25 :: unescapedBytes (a :: b :: cs)
  | c :: cs => (String.ofList [c]).toUTF8.toList ++ unescapedBytes cs
  | [] => []

/-- A text with its escapes resolved, if they stand for characters. -/
def unescaped? (cs : List Char) : Option (List Char) :=
  if cs.contains '%' then (Text.Utf8.decode? (unescapedBytes cs)).map String.toList else some cs

end Uri
end ReleaseAudit
