import CloudPlan.Constraint.Document
import CloudPlan.Files.System

/-!
# Constraint files

Constraints in files and directories.  The extension of a file tells its format.
-/

namespace CloudPlan

/-- Why constraints cannot be had. -/
inductive ConstraintError where
  | store (failure : String)
  | unknownFormat (path : String)
  | file (error : FileError)
  | yaml
  | json
deriving DecidableEq

namespace ConstraintError

/-- The stable name of the kind of error. -/
def code : ConstraintError → String
  | store _ => "ConstraintStoreError"
  | unknownFormat _ => "InvalidConstraint"
  | file _ => "IoError"
  | yaml => "InvalidConstraint"
  | json => "InvalidConstraint"

/-- The message of an error. -/
def message : ConstraintError → String
  | store failure => "Constraint store failure: " ++ failure
  | unknownFormat path =>
    "Invalid constraint in " ++ path ++ ": expected a .yaml, .yml or .json file"
  | file error => "IO error: " ++ error.message
  | yaml => "YAML error: not a list of constraints"
  | json => "JSON error: not a list of constraints"

end ConstraintError

namespace ConstraintSet

/-- A format of constraint files. -/
inductive Format where
  | yaml
  | json
deriving DecidableEq

/-- The format that the extension of a path stands for. -/
def Format.ofPath? (path : String) : Option Format :=
  match Path.extension? path with
  | some "json" => some .json
  | some "yaml" => some .yaml
  | some "yml" => some .yaml
  | _ => none

/-- The constraints in a text of some format. -/
def ofText (format : Format) (text : String) : Except ConstraintError ConstraintSet :=
  match format with
  | .yaml => (ofYaml? text).elim (.error .yaml) .ok
  | .json => (ofJson? text).elim (.error .json) .ok

variable {m : Type → Type} [Monad m] [FileSystem m]

/-- The constraints in a file. -/
def ofFile (path : String) : m (Except ConstraintError ConstraintSet) := do
  match ← FileSystem.readText path with
  | .error error => return .error (.file error)
  | .ok text =>
    match Format.ofPath? path with
    | some format => return ofText format text
    | none => return .error (.unknownFormat path)

/-- The constraints in files, one file after the other until one fails. -/
def ofFiles : List String → m (Except ConstraintError ConstraintSet)
  | [] => return .ok []
  | path :: rest => do
    match ← ofFile path with
    | .error error => return .error error
    | .ok set => return (← ofFiles rest).map (set ++ ·)

/-- Directories are searched this many levels deep. -/
def deepestLevel : Nat := 4096

/-- The files at a path or below it, in order of their names, at most so many levels deep. -/
def filesBelow : Nat → String → m (List String)
  | 0, _ => return []
  | levels + 1, path => do
    if ← FileSystem.isFile path then
      return [path]
    else
      let names := (← FileSystem.names path).mergeSort fun left right => decide (left ≤ right)
      return (← names.mapM fun name => filesBelow levels (Path.join path name)).flatten

/-- The constraints in all constraint files below a directory. -/
def ofDirectory (path : String) : m (Except ConstraintError ConstraintSet) := do
  let files ← filesBelow deepestLevel path
  ofFiles (files.filter fun file => (Format.ofPath? file).isSome)

end ConstraintSet

end CloudPlan
