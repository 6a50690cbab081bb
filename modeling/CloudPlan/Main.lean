import CloudPlan.CommandLine.Run
import CloudPlan.Files.Tree

/-!
# The program

The file system and the environment of the machine, and the entry point.
-/

namespace CloudPlan

/-- What an error of the machine means for files. -/
def FileError.ofSystem (error : IO.Error) : FileError :=
  match error with
  | .noFileOrDirectory _ _ _ => .notFound
  | .alreadyExists _ _ _ => .alreadyThere
  | .inappropriateType _ 21 _ => .isDirectory
  | .inappropriateType _ _ _ => .notDirectory
  | _ => .other (toString error)

/-- The result of an action on files, or what went wrong. -/
def attemptFile {α : Type} (action : IO α) : IO (Except FileError α) := do
  try
    return .ok (← action)
  catch error =>
    return .error (.ofSystem error)

instance : FileSystem IO where
  read path := attemptFile do return (← IO.FS.readBinFile path).toList
  isFile path := do
    let place := (← IO.currentDir) / path
    match ← place.metadata.toBaseIO with
    | .ok found => return found.type == .file
    | .error _ => return false
  isDirectory path := do ((← IO.currentDir) / path).isDir
  names path := do
    match ← ((← IO.currentDir) / path).readDir.toBaseIO with
    | .ok entries => return (entries.map (·.fileName)).toList
    | .error _ => return []
  makeDirectory path := attemptFile (IO.FS.createDir path)
  write path content := attemptFile (IO.FS.writeFile path content)

/-- The variables of the environment that options name, with their values. -/
def readEnvironment : IO (List (String × String)) := do
  let forms := CommandLine.commandForms.flatMap (·.forms)
  let names := (forms.filterMap (·.environment)).eraseDups
  let values ← names.mapM fun name => return (← IO.getEnv name).map (name, ·)
  return values.filterMap id

end CloudPlan

/-- Runs the program with the files and the environment of the machine. -/
def main (arguments : List String) : IO UInt32 := do
  let environment ← CloudPlan.readEnvironment
  let ending : CloudPlan.CommandLine.Ending ←
    CloudPlan.CommandLine.run (fun name => environment.lookup name) arguments
  IO.print ending.output
  IO.eprint ending.errors
  return ending.exitCode.toUInt32
