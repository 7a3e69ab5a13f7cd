import QueryLint.Files.Tree

/-! Paths as they are compared. -/

set_option autoImplicit false

namespace QueryLint.Path

/-- A part of a path; the single dot is only one where the path begins with it. -/
inductive Part where
  | root | here | up
  | name (text : String)
  deriving DecidableEq, Repr

namespace Part

/-- Parts of different kinds stand in this order. -/
def rank : Part → Nat
  | .root => 0
  | .here => 1
  | .up => 2
  | .name _ => 3

def text : Part → String
  | .name text => text
  | _ => ""

instance : Ord Part where
  compare := compareLex (compareOn rank) (compareOn text)

/-- What stands between slashes, unless it is nothing or a single dot. -/
def ofComponent? (component : String) : Option Part :=
  if component = "" ∨ component = "." then none
  else if component = ".." then some .up
  else some (.name component)

end Part

/-- The parts of a path: repeated slashes are one, and inner single dots do not count. -/
def parts (path : String) : List Part :=
  match FileTree.components path with
  | [""] => []
  | "" :: rest => .root :: rest.filterMap Part.ofComponent?
  | "." :: rest => .here :: rest.filterMap Part.ofComponent?
  | components => components.filterMap Part.ofComponent?

/-- The order of paths, part by part. -/
def order (a b : String) : Ordering :=
  compare (parts a) (parts b)

end QueryLint.Path
