import CloudPlan.Catalog.Provider
import CloudPlan.Constraint.Files

/-!
# Settings

What a run is to be about: the provider and the region, the engine, the constraints
and the directory for the files.
-/

namespace CloudPlan

/-- The settings of a run. -/
structure Settings where
  /-- The provider. -/
  provider : Provider := .aws
  /-- The region, if one is chosen. -/
  chosenRegion : Option String := none
  /-- The engine. -/
  engine : String := "terraform"
  /-- The file or directory with the constraints, if one is chosen. -/
  constraints : Option String := none
  /-- The directory for the files. -/
  outputDirectory : String := "infrastructure"
deriving DecidableEq

/-- Why there are no settings, or none that will do. -/
inductive SettingsError where
  | noEngine
  | blankRegion
  | unreadable
  | file (error : FileError)
deriving DecidableEq

namespace SettingsError

/-- The stable name of the kind of error. -/
def code : SettingsError → String
  | noEngine => "InvalidConfig"
  | blankRegion => "InvalidConfig"
  | unreadable => "InvalidConfig"
  | file _ => "IoError"

/-- The message of an error. -/
def message : SettingsError → String
  | noEngine => "Configuration error: engine must not be empty"
  | blankRegion => "Configuration error: region must not be blank"
  | unreadable => "TOML parse error: not a table of settings"
  | file error => "IO error: " ++ error.message

end SettingsError

namespace Settings

/-- The region: the chosen one, or else that of the provider. -/
def region (settings : Settings) : String :=
  settings.chosenRegion.getD settings.provider.defaultRegion

/-- There is an engine, and a chosen region is not blank. -/
def check (settings : Settings) : Except SettingsError Unit :=
  if Text.isBlankText settings.engine then
    .error .noEngine
  else if settings.chosenRegion.any Text.isBlankText then
    .error .blankRegion
  else
    .ok ()

/-- The constraints that hold when none are chosen. -/
def baseline (settings : Settings) : ConstraintSet :=
  match settings.provider with
  | .aws => ConstraintSet.awsBaseline
  | .azure => []
  | .gcp => []

/-- The constraints that the settings lead to. -/
def loadConstraints {m : Type → Type} [Monad m] [FileSystem m] (settings : Settings) :
    m (Except ConstraintError ConstraintSet) := do
  match settings.constraints with
  | none => return .ok settings.baseline
  | some path =>
    if ← FileSystem.isDirectory path then
      ConstraintSet.ofDirectory path
    else
      ConstraintSet.ofFile path

/-- Settings as JSON. -/
def encode (settings : Settings) : Json.Value :=
  .object [
    ("provider", .text settings.provider.name),
    ("region", Json.Value.textOrNull settings.chosenRegion),
    ("engine", .text settings.engine),
    ("constraints", Json.Value.textOrNull settings.constraints),
    ("output_dir", .text settings.outputDirectory)]

end Settings

end CloudPlan
