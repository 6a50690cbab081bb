import CloudPlan.Settings.Basic
import CloudPlan.Toml.Document

/-!
# Settings files

Settings as the top-level entries of a TOML document.  What is not given keeps its
usual value, and what no setting is called is ignored.
-/

namespace CloudPlan

namespace Settings

/-- The text that a value is. -/
def text? : Toml.Value → Option String
  | .text value => some value
  | _ => none

/-- A value holds nothing. -/
def isVoid : Toml.Value → Bool
  | .list items => items.isEmpty
  | .inlineTable entries => entries.isEmpty
  | .table _ entries => entries.isEmpty
  | _ => false

/-- The provider that a value names: by a text, or as the only key of a table, over nothing. -/
def provider? : Toml.Value → Option Provider
  | .text name => Provider.named? name
  | .inlineTable [(name, value)] => if isVoid value then Provider.named? name else none
  | .table _ [(name, value)] => if isVoid value then Provider.named? name else none
  | _ => none

/-- What an entry gives, or what holds without it. -/
def entry? {α : Type} (entries : Toml.Entries) (key : String) (absent : α)
    (decode : Toml.Value → Option α) : Option α :=
  match entries.lookup key with
  | none => some absent
  | some value => decode value

/-- The settings that entries give. -/
def ofEntries? (entries : Toml.Entries) : Option Settings := do
  let usual : Settings := {}
  return {
    provider := ← entry? entries "provider" usual.provider provider?
    chosenRegion := ← entry? entries "region" none fun value => (text? value).map some
    engine := ← entry? entries "engine" usual.engine text?
    constraints := ← entry? entries "constraints" none fun value => (text? value).map some
    outputDirectory := ← entry? entries "output_dir" usual.outputDirectory text? }

/-- The settings that TOML text gives. -/
def ofText (text : String) : Except SettingsError Settings := do
  let some settings := (Toml.document? text).bind ofEntries? | throw .unreadable
  settings.check
  return settings

variable {m : Type → Type} [Monad m] [FileSystem m]

/-- The settings in a file. -/
def ofFile (path : String) : m (Except SettingsError Settings) := do
  match ← FileSystem.readText path with
  | .error error => return .error (.file error)
  | .ok text => return ofText text

/-- The name of the file with the settings of a directory. -/
def fileName : String := "stratus.toml"

/-- The settings of a directory: those in its file, or the usual ones if it has no file. -/
def ofDirectory (directory : String) : m (Except SettingsError Settings) := do
  let path := Path.join directory fileName
  if ← FileSystem.isFile path then
    ofFile path
  else
    return .ok {}

end Settings

end CloudPlan
