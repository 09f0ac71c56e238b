/-! Paths of a file system with `/` between components. A path is kept as it was written. -/
namespace ReleaseAudit

structure Path where
  text : String
  deriving DecidableEq, Repr

namespace Path

instance : ToString Path := ⟨Path.text⟩

def chars (p : Path) : List Char := p.text.toList

def isAbsolute (p : Path) : Bool := p.chars.head? = some '/'

/-- `right` seen from `left`. An absolute path stands for itself, and only one separator is written
between the two. -/
def join (left : Path) (right : Path) : Path :=
  if right.isAbsolute then right
  else if left.chars = [] || left.chars.getLast? = some '/' then ⟨left.text ++ right.text⟩
  else ⟨left.text ++ "/" ++ right.text⟩

theorem join_of_isAbsolute {left right : Path} (h : right.isAbsolute = true) :
    left.join right = right := by
  simp [join, h]

theorem isAbsolute_join {left : Path} (h : left.isAbsolute = true) (right : Path) :
    (left.join right).isAbsolute = true := by
  by_cases hright : right.isAbsolute = true
  · rw [join_of_isAbsolute hright]
    exact hright
  · have hhead : left.chars.head? = some '/' := by simpa [isAbsolute] using h
    obtain ⟨cs, hcs⟩ := List.head?_eq_some_iff.mp hhead
    rw [join, if_neg hright]
    split <;> simp_all [isAbsolute, chars]

def pieces (p : Path) : List String := (p.chars.splitOn '/').map String.ofList

def trimBack (isRooted : Bool) : List Char → List Char
  | ['/'] => if isRooted then ['/'] else []
  | '/' :: cs => trimBack isRooted cs
  | '.' :: '/' :: cs => trimBack isRooted ('/' :: cs)
  | cs => cs

def backwards (p : Path) : List Char := trimBack p.isAbsolute p.chars.reverse

def lastComponent (p : Path) : List Char := (p.backwards.takeWhile (· ≠ '/')).reverse

/-- The path without its last component. The root and the empty path have no parent. -/
def parent (p : Path) : Option Path :=
  if p.lastComponent = [] then none
  else
    some ⟨String.ofList (trimBack p.isAbsolute (p.backwards.dropWhile (· ≠ '/'))).reverse⟩

/-- The text after the last dot of the last component. A dot that begins the component does not
count. -/
def extension (p : Path) : Option String :=
  let name := p.lastComponent
  let after := (name.reverse.takeWhile (· ≠ '.')).reverse
  let before := name.take (name.length - after.length)
  if name = ['.', '.'] || before = [] || before = ['.'] then none else some (String.ofList after)

end Path
end ReleaseAudit
