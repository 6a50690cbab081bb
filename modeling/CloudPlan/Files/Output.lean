import CloudPlan.Files.System

/-!
# Generated files

Files for an output directory.  A file is written below the directory or refused.
-/

namespace CloudPlan

/-- A file to be written. -/
structure GeneratedFile where
  /-- The path below the output directory. -/
  path : String
  /-- The content. -/
  content : String
deriving DecidableEq

/-- Why a file is not written. -/
inductive WriteError where
  | outside (path : String)
  | system (error : FileError)
deriving DecidableEq

/-- The message of an error. -/
def WriteError.message : WriteError → String
  | outside path => "refusing to write outside the output directory: '" ++ path ++ "'"
  | system error => error.message

/-- A component leads nowhere but down. -/
def Path.Component.isConfined : Path.Component → Bool
  | .normal _ => true
  | .current => true
  | .root => false
  | .parent => false

/-- A path leads nowhere but down. -/
def Path.isConfined (path : String) : Bool :=
  path != "" && (Path.components path).all (·.isConfined)

namespace GeneratedFile

variable {m : Type → Type} [Monad m] [FileSystem m]

/-- Where a file belongs below a directory, unless its path leads elsewhere. -/
def target (directory : String) (file : GeneratedFile) : Except WriteError String :=
  if Path.isConfined file.path then
    .ok (Path.join directory file.path)
  else
    .error (.outside file.path)

/-- Writes a file at a path, and before it the directories that are to contain it. -/
def place (path content : String) : m (Except FileError Unit) := do
  match ← FileSystem.makeParents path with
  | .error error => return .error error
  | .ok () => FileSystem.write path content

/-- Writes a file below a directory, and tells where it is. -/
def writeTo (directory : String) (file : GeneratedFile) : m (Except WriteError String) := do
  match file.target directory with
  | .error error => return .error error
  | .ok path =>
    match ← place path file.content with
    | .error error => return .error (.system error)
    | .ok () => return .ok path

/-- Writes files below a directory until one fails, and tells where they are. -/
def writeAll (directory : String) :
    List GeneratedFile → m (Except WriteError (List String))
  | [] => return .ok []
  | file :: rest => do
    match ← file.writeTo directory with
    | .error error => return .error error
    | .ok path => return (← writeAll directory rest).map (path :: ·)

end GeneratedFile

end CloudPlan
