import CloudPlan.Pipeline.Basic
import CloudPlan.Files.Output

/-!
# Failures of commands

Why a command fails, what is told about it and which code the program ends with.
-/

namespace CloudPlan.CommandLine

/-- Why a command fails. -/
inductive Failure where
  /-- A text names no provider. -/
  | unknownProvider (text : String)
  /-- There are no settings; they come from a file that was asked for if that is named. -/
  | settings (path : Option String) (error : SettingsError)
  /-- The diagram cannot be read. -/
  | diagram (path : String) (error : FileError)
  /-- The run stops. -/
  | pipeline (error : PipelineError)
  /-- The diagram violates constraints, so many times. -/
  | violations (count : Nat)
  /-- There is no code, because of so many problems. -/
  | generation (engine : String) (count : Nat)
  /-- The files cannot be written. -/
  | writing (directory : String) (error : WriteError)

namespace Failure

/-- A failure of the file system: the message about it, and the cause. -/
def fileTexts (cause : String) : List String :=
  ["IO error: " ++ cause, cause]

/-- What is told about settings. -/
def settingsTexts : SettingsError → List String
  | .file error => fileTexts error.message
  | error => [error.message]

/-- What is told about a run that stops. -/
def pipelineTexts : PipelineError → List String
  | .constraint (.file error) => fileTexts error.message
  | error => [error.message]

/-- What is told about a failure: what could not be done, and then the causes. -/
def texts : Failure → List String
  | unknownProvider text => ["Invalid argument: unknown provider '" ++ text ++ "'"]
  | settings none error => settingsTexts error
  | settings (some path) error =>
    ("Failed to load configuration " ++ path) :: settingsTexts error
  | diagram path error => ["Failed to read diagram " ++ path, error.message]
  | pipeline error => pipelineTexts error
  | violations count =>
    ["Validation failed with " ++ toString count ++ " constraint violations"]
  | generation engine count =>
    [engine ++ " generation failed with " ++ toString count ++ " errors"]
  | writing directory error =>
    ("Failed to write infrastructure files to " ++ directory) :: fileTexts error.message

/-- The message of a failure. -/
def message (failure : Failure) : String :=
  "❌ Error: " ++ ": ".intercalate failure.texts

/-! ## Exit codes -/

/-- All went well. -/
def successCode : Nat := 0

/-- Something else failed. -/
def generalCode : Nat := 1

/-- The arguments or settings will not do. -/
def argumentCode : Nat := 2

/-- The diagram violates constraints or mentions unknown types. -/
def validationCode : Nat := 3

/-- The diagram is refused. -/
def diagramCode : Nat := 4

/-- There is no code. -/
def generationCode : Nat := 5

/-- The exit code for a run that stops. -/
def pipelineCode : PipelineError → Nat
  | .diagram _ => diagramCode
  | .architecture (.type _) => validationCode
  | .architecture _ => generationCode
  | .constraint _ => validationCode
  | .project _ => generalCode

/-- The exit code for a failure. -/
def exitCode : Failure → Nat
  | unknownProvider _ => argumentCode
  | settings _ (.file _) => generalCode
  | settings _ _ => argumentCode
  | diagram _ _ => generalCode
  | pipeline error => pipelineCode error
  | violations _ => validationCode
  | generation _ _ => generationCode
  | writing _ _ => generationCode

end Failure

end CloudPlan.CommandLine
