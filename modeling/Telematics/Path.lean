/-
# Telematics.Path -- the parts of a path

A path is a list of names between slashes, beginning at the root or somewhere
else.  Repeated slashes count as one and a part that is a single dot says
nothing, except at the beginning of a path that does not begin at the root.  Two
paths with the same parts are the same path, however they are spelled.
-/
import Telematics.Text.Cut

namespace Telematics.Path

set_option autoImplicit false

def isRooted (path : String) : Bool :=
  path.toList.head? = some '/'

/-- The names between the slashes of a path, single and double dots among them. -/
def names (path : String) : List String :=
  ((Text.cut '/' path.toList).map String.ofList).filter (· ≠ "")

def endsOpen (path : String) : Bool :=
  path.toList.getLast? = some '/'

def parts (path : String) : List String :=
  let all := (Text.cut '/' path.toList).map String.ofList
  let said := all.filter fun part => part ≠ "" && part ≠ "."
  if !isRooted path && all.head? = some "." then "." :: said else said

def same (a b : String) : Bool :=
  isRooted a = isRooted b && parts a = parts b

end Telematics.Path
