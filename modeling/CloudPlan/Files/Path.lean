/-!
# Paths

Paths of files as text, and the components that they consist of.  Empty components
and dots count for nothing, but for a dot with which a path begins.
-/

namespace CloudPlan.Path

/-- A component of a path. -/
inductive Component where
  | root
  | current
  | parent
  | normal (name : String)
deriving DecidableEq

/-- The parts of a text between its slashes. -/
def parts : List Char → List (List Char)
  | [] => [[]]
  | c :: rest =>
    if c = '/' then
      [] :: parts rest
    else
      match parts rest with
      | [] => [[c]]
      | part :: more => (c :: part) :: more

/-- The component that a part of a path is, if it counts. -/
def component? (part : List Char) : Option Component :=
  match part with
  | [] => none
  | ['.'] => none
  | ['.', '.'] => some .parent
  | _ => some (.normal (String.ofList part))

/-- What a path starts with, if that is a component of its own. -/
def start : List (List Char) → List Component
  | [] :: _ :: _ => [.root]
  | ['.'] :: _ => [.current]
  | _ => []

/-- The components of a path. -/
def components (path : String) : List Component :=
  let found := parts path.toList
  start found ++ found.filterMap component?

namespace Component

/-- How a component is written, but for the root. -/
def text : Component → String
  | root => ""
  | current => "."
  | parent => ".."
  | normal name => name

end Component

/-- The path of some components. -/
def ofComponents (found : List Component) : String :=
  match found with
  | [.root] => "/"
  | _ => "/".intercalate (found.map (·.text))

/-- A path leads on from the root. -/
def isAbsolute (path : String) : Bool :=
  path.toList.head? == some '/'

/-- A path that leads on from a directory. -/
def join (directory path : String) : String :=
  if isAbsolute path ∨ directory = "" then
    path
  else if directory.toList.getLast? = some '/' then
    directory ++ path
  else
    directory ++ "/" ++ path

/-- The components of what contains a path. -/
def parentComponents (path : String) : List Component :=
  (components path).dropLast

/-- The name at the end of a path. -/
def fileName? (path : String) : Option String :=
  match (components path).getLast? with
  | some (.normal name) => some name
  | _ => none

/-- What follows the last dot of the name, unless the name only begins with that dot. -/
def extension? (path : String) : Option String := do
  let reversed := (← fileName? path).toList.reverse
  let before := reversed.dropWhile (· != '.')
  guard (1 < before.length)
  return String.ofList (reversed.takeWhile (· != '.')).reverse

end CloudPlan.Path
