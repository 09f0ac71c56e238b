import ReleaseAudit.Fault
import ReleaseAudit.Text.Utf8

/-! A tree of files and folders, and the answers it gives to a program. -/
namespace ReleaseAudit

inductive Entry where
  | folder | file (bytes : List UInt8)
  deriving DecidableEq, Repr

/-- A place in the tree: the names on the way to it, outermost first. -/
abbrev Place := List String

/-- The entries below the root, the newest first; of two at one place the newer counts. -/
structure FileSystem where
  entries : List (Place × Entry)
  deriving DecidableEq, Repr

namespace FileSystem

def empty : FileSystem := ⟨[]⟩

def entryAt? (fs : FileSystem) (place : Place) : Option Entry :=
  if place = [] then some .folder else fs.entries.lookup place

def add (fs : FileSystem) (place : Place) (e : Entry) : FileSystem := ⟨(place, e) :: fs.entries⟩

@[simp] theorem entryAt?_root (fs : FileSystem) : fs.entryAt? [] = some .folder := rfl

theorem entryAt?_add_self {fs : FileSystem} {place : Place} (h : place ≠ []) (e : Entry) :
    (fs.add place e).entryAt? place = some e := by
  simp [entryAt?, add, h]

theorem entryAt?_add_of_ne {fs : FileSystem} {place other : Place} (h : other ≠ place) (e : Entry) :
    (fs.add place e).entryAt? other = fs.entryAt? other := by
  simp [entryAt?, add, List.lookup_cons, beq_eq_false_iff_ne.mpr h]

/-- The tree with a folder at a place, and with the folders around it. -/
def withFolder (fs : FileSystem) (place : Place) : FileSystem :=
  (List.range place.length).foldl (fun fs n =>
    let outer := place.take (n + 1)
    if (fs.entryAt? outer).isNone then fs.add outer .folder else fs) fs

def withFile (fs : FileSystem) (place : Place) (bytes : List UInt8) : FileSystem :=
  (fs.withFolder place.dropLast).add place (.file bytes)

/-- How many bytes a name in a folder may take. -/
def maxNameLength : Nat := 255

def maxPathLength : Nat := 4095

def requireFolder (fs : FileSystem) (place : Place) : Except SystemError Unit :=
  match fs.entryAt? place with
  | some .folder => .ok ()
  | some (.file _) => .error .notDirectory
  | none => .error .notFound

def step (place : Place) (name : String) : Except SystemError Place :=
  if name = "" || name = "." then .ok place
  else if name = ".." then .ok place.dropLast
  else if maxNameLength < name.utf8ByteSize then .error .nameTooLong
  else .ok (place ++ [name])

/-- Walks along names; every place but the last has to be a folder. -/
def walk (fs : FileSystem) (place : Place) : List String → Except SystemError Place
  | [] => .ok place
  | name :: names => do
    fs.requireFolder place
    walk fs (← step place name) names

/-- The place that a path leads to, whether or not there is anything. -/
def locate (fs : FileSystem) (p : Path) : Except SystemError Place :=
  if p.chars.contains '\x00' then .error .nulInPath
  else if maxPathLength < p.text.utf8ByteSize then .error .nameTooLong
  else if p.text = "" then .error .notFound
  else fs.walk [] p.pieces

def find (fs : FileSystem) (p : Path) : Except SystemError Entry := do
  match fs.entryAt? (← fs.locate p) with
  | some e => return e
  | none => .error .notFound

def exists? (fs : FileSystem) (p : Path) : Bool :=
  match fs.find p with
  | .ok _ => true
  | .error _ => false

def isFolder (fs : FileSystem) (p : Path) : Bool :=
  match fs.find p with
  | .ok .folder => true
  | _ => false

def readText (fs : FileSystem) (p : Path) : Except SystemError String := do
  match ← fs.find p with
  | .folder => .error .isDirectory
  | .file bytes =>
    match Text.Utf8.decode? bytes with
    | some text => return text
    | none => .error .invalidUtf8

def children (fs : FileSystem) (p : Path) : Except SystemError (List Place) := do
  let place ← fs.locate p
  fs.requireFolder place
  return (fs.entries.map (·.1)).filter fun q => q ≠ [] && q.dropLast = place

def makeFolder (fs : FileSystem) (p : Path) : Except SystemError FileSystem := do
  let place ← fs.locate p
  match fs.entryAt? place with
  | some _ => .error .alreadyExists
  | none => return fs.add place .folder

/-- Makes a folder and the missing ones around it: the folders made, and the tree then. -/
def makeFolders (fuel : Nat) (fs : FileSystem) (p : Path) :
    List Path × Except SystemError FileSystem :=
  match fuel with
  | 0 => ([], .error .incompleteTree)
  | fuel + 1 =>
    if p.text = "" then ([], .ok fs)
    else match fs.makeFolder p with
      | .ok after => ([p], .ok after)
      | .error .notFound =>
        match p.parent with
        | none => ([], .error .incompleteTree)
        | some outer =>
          match makeFolders fuel fs outer with
          | (made, .error e) => (made, .error e)
          | (made, .ok fs) =>
            match fs.makeFolder p with
            | .ok after => (made ++ [p], .ok after)
            | .error e => (made, if fs.isFolder p then .ok fs else .error e)
      | .error e => ([], if fs.isFolder p then .ok fs else .error e)

end FileSystem
end ReleaseAudit
