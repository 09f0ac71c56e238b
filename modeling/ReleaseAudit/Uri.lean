import ReleaseAudit.Json.Reader

/-! References to resources: their parts, their normal form, and what they mean seen from another
resource. -/
namespace ReleaseAudit

structure Uri where
  scheme : Option (List Char)
  authority : Option (List Char)
  path : List Char
  query : Option (List Char)
  fragment : Option (List Char)
  deriving DecidableEq, Repr

namespace Uri

def optional (mark : List Char) : Option (List Char) → List Char
  | some cs => mark ++ cs
  | none => []

def chars (u : Uri) : List Char :=
  (match u.scheme with
    | some cs => cs ++ [':']
    | none => []) ++
    optional ['/', '/'] u.authority ++ u.path ++ optional ['?'] u.query ++ optional ['#'] u.fragment

def text (u : Uri) : String := String.ofList u.chars

def isRooted (path : List Char) : Bool := path.head? = some '/'

/-- The segments of a path without lone dots, and without those that two dots take back. What is
kept is given last one first. -/
def withoutDots (kept : List (List Char)) : List (List Char) → List (List Char)
  | [] => kept.reverse
  | [s] =>
    if s = ['.'] then ([] :: kept).reverse
    else if s = ['.', '.'] then ([] :: kept.drop 1).reverse
    else (s :: kept).reverse
  | s :: segments =>
    if s = ['.'] then withoutDots kept segments
    else if s = ['.', '.'] then withoutDots (kept.drop 1) segments
    else withoutDots (s :: kept) segments

def straightPath (path : List Char) : List Char :=
  if isRooted path then
    '/' :: (List.intercalate ['/'] (withoutDots [] ((path.drop 1).splitOn '/')))
  else path

def mergePath (base : Uri) (path : List Char) : List Char :=
  if base.authority.isSome && base.path = [] then '/' :: path
  else (base.path.reverse.dropWhile (· ≠ '/')).reverse ++ path

/-- What a reference means in a resource. A path without a root has no meaning where the resource
has none either. -/
def resolve? (base r : Uri) : Option Uri :=
  if r.scheme.isSome then some r
  else if r.authority.isSome then some { r with scheme := base.scheme }
  else if r.path = [] then
    some { base with
      query := r.query.orElse fun _ => base.query
      fragment := r.fragment }
  else if isRooted r.path then some { r with scheme := base.scheme, authority := base.authority }
  else if base.authority.isNone && !isRooted base.path then none
  else
    some { r with
      scheme := base.scheme
      authority := base.authority
      path := mergePath base r.path }

def isUnreserved (c : Char) : Bool := c.isAlphanum || c = '-' || c = '.' || c = '_' || c = '~'

/-- Escapes in capitals, except those of characters that need none. -/
def normalizeEscapes : List Char → List Char
  | '%' :: a :: b :: cs =>
    let own := match Json.hexValue? a, Json.hexValue? b with
      | some m, some n =>
        let c := Char.ofNat (16 * m + n)
        if isUnreserved c then [c] else ['%', a.toUpper, b.toUpper]
      | _, _ => ['%', a, b]
    own ++ normalizeEscapes cs
  | c :: cs => c :: normalizeEscapes cs
  | [] => []

def defaultPort? (scheme : String) : Option String :=
  [("http", "80"), ("https", "443"), ("ws", "80"), ("wss", "443"), ("ftp", "21")].lookup scheme

def splitUser (cs : List Char) : List Char × List Char :=
  if cs.contains '@' then
    ((cs.reverse.dropWhile (· ≠ '@')).reverse, (cs.reverse.takeWhile (· ≠ '@')).reverse)
  else ([], cs)

def splitPort (cs : List Char) : List Char × Option (List Char) :=
  let port := (cs.reverse.takeWhile Decimal.isDigit).reverse
  match cs.reverse.drop port.length with
  | ':' :: host => (host.reverse, some port)
  | _ => (cs, none)

/-- An authority in small letters, without the port that its scheme has anyway. -/
def normalizeAuthority (scheme : Option (List Char)) (cs : List Char) : List Char :=
  let (user, rest) := splitUser cs
  let (host, port) := splitPort rest
  let usual := scheme.bind fun s => defaultPort? (String.ofList s)
  normalizeEscapes user ++ normalizeEscapes (host.map Char.toLower) ++
    match port with
    | some ds => if ds = [] || usual = some (String.ofList ds) then [] else ':' :: ds
    | none => []

/-- The normal form of a reference. -/
def normalize (u : Uri) : Uri :=
  let scheme := u.scheme.map fun s => s.map Char.toLower
  let path := normalizeEscapes u.path
  { scheme
    authority := u.authority.map (normalizeAuthority scheme)
    path := if scheme.isSome then straightPath path else path
    query := u.query.map normalizeEscapes
    fragment := u.fragment.map normalizeEscapes }

end Uri
end ReleaseAudit
