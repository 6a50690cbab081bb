import CloudPlan.Files.Path
import CloudPlan.Text.Utf8

/-!
# File systems

What a program asks of a file system, and what it can do with the answers.
-/

namespace CloudPlan

/-- Why something cannot be done with a file. -/
inductive FileError where
  | notFound
  | alreadyThere
  | notDirectory
  | isDirectory
  | nameTooLong
  | zeroByte
  | notText
  | other (description : String)
deriving DecidableEq

namespace FileError

/-- The description of an error, with the number that the system gives it. -/
def message : FileError → String
  | notFound => "No such file or directory (os error 2)"
  | alreadyThere => "File exists (os error 17)"
  | notDirectory => "Not a directory (os error 20)"
  | isDirectory => "Is a directory (os error 21)"
  | nameTooLong => "File name too long (os error 36)"
  | zeroByte => "file name contained an unexpected NUL byte"
  | notText => "stream did not contain valid UTF-8"
  | other description => description

end FileError

/-- What a file system offers. -/
class FileSystem (m : Type → Type) where
  /-- The bytes of a file. -/
  read : String → m (Except FileError (List UInt8))
  /-- A path leads to a file. -/
  isFile : String → m Bool
  /-- A path leads to a directory. -/
  isDirectory : String → m Bool
  /-- The names in a directory; none if it cannot be read. -/
  names : String → m (List String)
  /-- Makes a directory in one that is there. -/
  makeDirectory : String → m (Except FileError Unit)
  /-- Writes a file in a directory that is there. -/
  write : String → String → m (Except FileError Unit)

namespace FileSystem

variable {m : Type → Type} [Monad m] [FileSystem m]

/-- The text in a file. -/
def readText (path : String) : m (Except FileError String) := do
  match ← read path with
  | .error error => return .error error
  | .ok bytes =>
    match Text.Utf8.decode? bytes with
    | some chars => return .ok (String.ofList chars)
    | none => return .error .notText

/-- An attempt to make a directory is good enough when the directory is there. -/
def settle (path : String) (attempt : Except FileError Unit) : m (Except FileError Unit) := do
  match attempt with
  | .ok () => return .ok ()
  | .error error => if ← isDirectory path then return .ok () else return .error error

/--
Makes the directory of some components, the last one first, and before it those that
contain it and are not there.
-/
def makeDirectories : List Path.Component → m (Except FileError Unit)
  | [] => return .ok ()
  | last :: parents => do
    let path := Path.ofComponents (last :: parents).reverse
    match ← makeDirectory path with
    | .error .notFound =>
      match ← makeDirectories parents with
      | .error error => return .error error
      | .ok () => settle path (← makeDirectory path)
    | attempt => settle path attempt

/-- Makes the directory that is to contain a path. -/
def makeParents (path : String) : m (Except FileError Unit) :=
  makeDirectories (Path.parentComponents path).reverse

end FileSystem

end CloudPlan
