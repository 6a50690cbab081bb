import CloudPlan.Architecture.Document
import CloudPlan.CommandLine.Failure
import CloudPlan.CommandLine.Request
import CloudPlan.Settings.Document

/-!
# Running commands

What the commands print and write.  All that they read and write goes through a file
system.
-/

namespace CloudPlan.CommandLine

/-- What comes of a command: the text that it prints, and why it fails if it does. -/
structure Result where
  /-- The text. -/
  output : String
  /-- The failure. -/
  failure : Option Failure := none

/-- Text on lines of their own. -/
def lines (texts : List String) : String :=
  String.join (texts.map (· ++ "\n"))

/-- A text with blanks after it, up to a width. -/
def padded (width : Nat) (text : String) : String :=
  text ++ String.ofList (List.replicate (width - text.length) ' ')

/-! ## Texts -/

/-- A violation in one line. -/
def violationLine (violation : Violation) : String :=
  "   - " ++ violation.node.id ++ " (" ++ violation.fault.kind.name ++ "): " ++
    violation.message ++ " [expected " ++ violation.fault.expected ++ ", got " ++
    violation.fault.actual ++ "]"

/-- Violations in lines. -/
def violationText (violations : List Violation) : String :=
  lines ("❌ Constraint violations:" :: violations.map violationLine)

/-- How many resources an architecture has, and which of them nobody drew. -/
def architectureText (architecture : Architecture) : String :=
  let added := architecture.resources.filter (·.synthesized)
  lines <|
    ("✅ Diagram is valid: " ++ toString architecture.resources.length ++ " resources (" ++
      toString added.length ++ " added as implicit dependencies)") ::
    added.map fun resource => "   + " ++ resource.id ++ " (" ++ resource.typeName ++ ")"

/-- A problem in one line. -/
def problemLine (problem : Code.Problem) : String :=
  match problem.resource with
  | some id => "   - [" ++ problem.code ++ "] " ++ id ++ ": " ++ problem.message
  | none => "   - [" ++ problem.code ++ "] " ++ problem.message

/-- Problems in lines. -/
def problemText (problems : List Code.Problem) : String :=
  lines ("❌ Code generation failed:" :: problems.map problemLine)

/-- Files with their paths above them. -/
def filesText (files : List GeneratedFile) : String :=
  lines (files.flatMap fun file => ["# ---- " ++ file.path ++ " ----", file.content])

/-- Which files were written. -/
def writtenText (engine : String) (paths : List String) : String :=
  lines (("✅ Generated " ++ toString paths.length ++ " " ++ engine ++ " files:") ::
    paths.map ("   " ++ ·))

/-- A row of the list of resource types. -/
def typeRow (name provider category kind engines : String) : String :=
  padded 16 name ++ " " ++ padded 8 provider ++ " " ++ padded 12 category ++ " " ++
    padded 18 kind ++ " " ++ engines

/-- The lines about a resource type: its row, and what its resources bring with them. -/
def typeLines (pipeline : Pipeline) (type : ResourceType) : List String :=
  let engines := pipeline.code.engines.filter fun engine =>
    (pipeline.code.mapper? engine type.name).isSome
  typeRow type.name type.provider.name type.category.name type.kind (",".intercalate engines) ::
    (pipeline.catalog.hiddenRules type.name).map ("    └─ implies " ++ ·.childType)

/-- The list of the resource types of a provider, or of all. -/
def typesText (pipeline : Pipeline) (provider : Option Provider) : String :=
  let shown := pipeline.catalog.types.filter fun type => provider.all (type.provider == ·)
  lines (typeRow "TYPE" "CLOUD" "CATEGORY" "KIND" "ENGINES" ::
    shown.flatMap (typeLines pipeline))

/-! ## Commands -/

/-- The provider that an option names, or the one that holds without it. -/
def chooseProvider (named : Option String) (absent : Provider) : Except Failure Provider :=
  match named with
  | none => .ok absent
  | some text => (Provider.parse? text).elim (.error (.unknownProvider text)) .ok

/-- Settings with what a request gives in their place. -/
def chooseSettings (diagram : DiagramRequest) (settings : Settings) : Except Failure Settings := do
  return { settings with
    provider := ← chooseProvider diagram.provider settings.provider
    chosenRegion := diagram.region.or settings.chosenRegion
    constraints := diagram.constraints.or settings.constraints }

/-- Settings with another engine and output directory, if these are given, that will do. -/
def chooseTarget (engine output : Option String) (settings : Settings) :
    Except Failure Settings := do
  let chosen := { settings with
    engine := engine.getD settings.engine
    outputDirectory := output.getD settings.outputDirectory }
  chosen.check.mapError (.settings none)
  return chosen

variable {m : Type → Type} [Monad m] [FileSystem m]

/-- The settings in the file that is named, or in the directory where the program runs. -/
def loadSettings (settingsFile : Option String) : m (Except Failure Settings) := do
  match settingsFile with
  | some path => return (← Settings.ofFile path).mapError (.settings settingsFile)
  | none => return (← Settings.ofDirectory "").mapError (.settings none)

/-- Reads a diagram and works on it. -/
def processDiagram (path : String) (settings : Settings) :
    m (Except Failure (Pipeline × Outcome)) := do
  match ← FileSystem.read path with
  | .error error => return .error (.diagram path error)
  | .ok raw =>
    match ← Pipeline.ofSettings settings with
    | .error error => return .error (.pipeline (.constraint error))
    | .ok pipeline =>
      return ((pipeline.process raw settings.provider settings.region).mapError .pipeline).map
        (pipeline, ·)

/-- Checks a diagram. -/
def validate (settingsFile : Option String) (diagram : DiagramRequest) (asJson : Bool) :
    m Result := do
  match (← loadSettings settingsFile).bind (chooseSettings diagram) with
  | .error failure => return ⟨"", failure⟩
  | .ok settings =>
    match ← processDiagram diagram.path settings with
    | .error failure => return ⟨"", failure⟩
    | .ok (_, .mapped architecture) =>
      return { output :=
        if asJson then lines [architecture.encode.pretty] else architectureText architecture }
    | .ok (_, .invalid violations) =>
      let output :=
        if asJson then lines [(Json.Value.list (violations.map (·.encode))).pretty]
        else violationText violations
      return ⟨output, some (.violations violations.length)⟩

/-- Shows files, or writes them below the output directory. -/
def deliver (settings : Settings) (isDry : Bool) (files : List GeneratedFile) : m Result := do
  if isDry then
    return { output := filesText files }
  else
    match ← GeneratedFile.writeAll settings.outputDirectory files with
    | .error error => return ⟨"", some (.writing settings.outputDirectory error)⟩
    | .ok paths => return { output := writtenText settings.engine paths }

/-- Generates the code of a diagram. -/
def generate (settingsFile : Option String) (diagram : DiagramRequest)
    (engine output : Option String) (isDry : Bool) : m Result := do
  let chosen := (← loadSettings settingsFile).bind (chooseSettings diagram)
  match chosen.bind (chooseTarget engine output) with
  | .error failure => return ⟨"", failure⟩
  | .ok settings =>
    match ← processDiagram diagram.path settings with
    | .error failure => return ⟨"", failure⟩
    | .ok (_, .invalid violations) =>
      return ⟨violationText violations, some (.violations violations.length)⟩
    | .ok (pipeline, .mapped architecture) =>
      match (pipeline.generate settings.engine architecture).outcome with
      | .error problems =>
        return ⟨problemText problems, some (.generation settings.engine problems.length)⟩
      | .ok files => deliver settings isDry files

/-- Lists resource types. -/
def listTypes (provider : Option String) : Result :=
  let pipeline : Pipeline := {}
  match provider with
  | none => { output := typesText pipeline none }
  | some text =>
    match Provider.parse? text with
    | none => ⟨"", some (.unknownProvider text)⟩
    | some chosen => { output := typesText pipeline (some chosen) }

/-- Does what a request asks for. -/
def Request.run (request : Request) : m Result :=
  match request.command with
  | .validate diagram asJson => validate request.settingsFile diagram asJson
  | .generate diagram engine output isDry =>
    generate request.settingsFile diagram engine output isDry
  | .types provider => return listTypes provider

/-! ## The program -/

/-- What the program leaves when it ends. -/
structure Ending where
  /-- The exit code. -/
  exitCode : Nat
  /-- The text on the standard output. -/
  output : String
  /-- The text on the standard error output. -/
  errors : String

/-- The version of the program. -/
def programVersion : String := "0.1.0"

/-- How to use the program. -/
def usageText : String :=
  lines [
    "Usage: stratus [OPTIONS] <COMMAND>",
    "",
    "Commands:",
    "  validate <DIAGRAM>  Check a diagram against its constraints",
    "  generate <DIAGRAM>  Generate infrastructure code from a diagram",
    "  types               List registered resource types"]

/-- How the program ends after a refusal. -/
def Refusal.ending : Refusal → Ending
  | .usage => ⟨Failure.argumentCode, "", usageText⟩
  | .help => ⟨Failure.successCode, usageText, ""⟩
  | .version program => ⟨Failure.successCode, lines [program ++ " " ++ programVersion], ""⟩

/-- How the program ends after a command. -/
def Result.ending (result : Result) : Ending :=
  match result.failure with
  | none => ⟨Failure.successCode, result.output, ""⟩
  | some failure => ⟨failure.exitCode, result.output, lines [failure.message]⟩

/-- Runs the program. -/
def run (environment : String → Option String) (arguments : List String) : m Ending := do
  match request environment arguments with
  | .error refusal => return refusal.ending
  | .ok request => return (← request.run).ending

end CloudPlan.CommandLine
