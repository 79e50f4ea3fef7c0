/-!
# Paths

Paths as texts: joining two, and the directory that a path lies in. Neither looks at any files.
-/

namespace Testbed.Path

/-- The parts of a path between slashes. -/
def segmentsFrom (current : List Char) : List Char → List (List Char)
  | [] => [current.reverse]
  | c :: rest =>
    if c = '/' then current.reverse :: segmentsFrom [] rest else segmentsFrom (c :: current) rest

/-- The parts of a path between slashes; a slash at either end gives an empty one. -/
def segments (path : String) : List String :=
  (segmentsFrom [] path.toList).map String.ofList

/-- Whether a path starts at the root. -/
def isAbsolute (path : String) : Bool := path.toList.head? = some '/'

/-- The path of `other` as seen from `base`. -/
def join (base other : String) : String :=
  if isAbsolute other then other
  else if base.isEmpty || base.toList.getLast? = some '/' then base ++ other
  else base ++ "/" ++ other

/-- Drop the parts at the end that name nothing, the parts given last first. A point names
nothing unless it is all there is of a path that does not start at the root. -/
def dropIdle (absolute : Bool) : List String → List String
  | [] => []
  | s :: rest =>
    if s.isEmpty || (s = "." && (absolute || !rest.isEmpty)) then dropIdle absolute rest
    else s :: rest

/-- The path without its last name; none for the root and the empty path. -/
def parent? (path : String) : Option String :=
  let absolute := isAbsolute path
  let all := segments path
  let parts := if absolute then all.drop 1 else all
  match dropIdle absolute parts.reverse with
  | [] => none
  | _ :: rest =>
    let body := "/".intercalate (dropIdle absolute rest).reverse
    some (if absolute then "/" ++ body else body)

/-- The directory that a path lies in, `none` where the path names none. -/
def directory? (path : String) : Option String := (parent? path).filter fun p => !p.isEmpty

end Testbed.Path
