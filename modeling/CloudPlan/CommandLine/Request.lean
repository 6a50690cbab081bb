import CloudPlan.CommandLine.Words

/-!
# Requests

What the arguments of the program and its environment ask for: one of its commands,
with settings that come before those in files.
-/

namespace CloudPlan.CommandLine

/-- A diagram, and the settings to work on it with. -/
structure DiagramRequest where
  /-- The path of the diagram. -/
  path : String
  /-- The name of the provider. -/
  provider : Option String
  /-- The region. -/
  region : Option String
  /-- The file or directory with the constraints. -/
  constraints : Option String

/-- What is to be done. -/
inductive Command where
  /-- To check a diagram, and to show the result as JSON or in words. -/
  | validate (diagram : DiagramRequest) (asJson : Bool)
  /-- To generate the code of a diagram, and to write the files or only to show them. -/
  | generate (diagram : DiagramRequest) (engine output : Option String) (isDry : Bool)
  /-- To list the resource types, of one provider or of all. -/
  | types (provider : Option String)

/-- What the program is asked for. -/
structure Request where
  /-- The file with the settings, if one is named. -/
  settingsFile : Option String
  /-- What is to be done. -/
  command : Command

/-! ## Options -/

/-- The name of the program. -/
def programName : String := "stratus"

/-- The option that names the file with the settings. -/
def settingsForm : OptionForm where
  name := "config"
  letter := some 'c'
  kind := .path
  environment := some "STRATUS_CONFIG"

/-- The options that every program and command takes. -/
def generalForms (program : String) : List OptionForm :=
  [{ name := "verbose", letter := some 'v' }, { name := "quiet", letter := some 'q' },
    settingsForm, { name := "help", letter := some 'h', kind := .help },
    { name := "version", letter := some 'V', kind := .version program }]

/-- The option that names the provider. -/
def providerForm : OptionForm where
  name := "provider"
  letter := some 'p'
  kind := .text
  environment := some "STRATUS_PROVIDER"

/-- The options for work on a diagram. -/
def diagramForms : List OptionForm :=
  [providerForm,
    { name := "region", letter := some 'r', kind := .text, environment := some "STRATUS_REGION" },
    { name := "constraints", kind := .path, environment := some "STRATUS_CONSTRAINTS" }]

/-- The options for the generation of code. -/
def codeForms : List OptionForm :=
  [{ name := "engine", letter := some 'e', kind := .text, environment := some "STRATUS_ENGINE" },
    { name := "output", letter := some 'o', kind := .path, environment := some "STRATUS_OUTPUT" },
    { name := "dry-run" }]

/-! ## Commands -/

/-- A command as it is written. -/
structure CommandForm where
  /-- The name. -/
  name : String
  /-- The options that only some commands take. -/
  ownForms : List OptionForm
  /-- How many operands there may be. -/
  operands : Nat
  /-- The command that options and operands give, if no operand is missing. -/
  command? : Given → List String → Option Command

/-- The options that a command takes. -/
def CommandForm.forms (form : CommandForm) : List OptionForm :=
  form.ownForms ++ generalForms (programName ++ "-" ++ form.name)

/-- The work on a diagram that options and operands give. -/
def diagramRequest? (given : Given) (operands : List String) : Option DiagramRequest :=
  operands.head?.map fun path =>
    ⟨path, given.lookup "provider", given.lookup "region", given.lookup "constraints"⟩

/-- A switch is on. -/
def isOn (given : Given) (name : String) : Bool :=
  (given.lookup name).isSome

/-- The commands. -/
def commandForms : List CommandForm :=
  [{ name := "validate", ownForms := { name := "json" } :: diagramForms, operands := 1
     command? given operands := (diagramRequest? given operands).map fun diagram =>
       .validate diagram (isOn given "json") },
    { name := "generate", ownForms := diagramForms ++ codeForms, operands := 1
      command? given operands := (diagramRequest? given operands).map fun diagram =>
        .generate diagram (given.lookup "engine") (given.lookup "output")
          (isOn given "dry-run") },
    { name := "types", ownForms := [providerForm], operands := 0
      command? given _ := some (.types (given.lookup "provider")) }]

/-- The command of a name. -/
def commandForm? (name : String) : Option CommandForm :=
  commandForms.find? (·.name == name)

/-- The name of the command that tells how to use the others. -/
def helpName : String := "help"

/-- What comes of a wish for help with a command, or with the program as a whole. -/
def helpWith (names : List String) : Refusal :=
  match names with
  | [] => .help
  | [name] => if name = helpName ∨ (commandForm? name).isSome then .help else .usage
  | _ => .usage

/--
The request of the arguments of a command, after those general options that were given
before its name.  What is given after the name counts first, and what the environment
gives counts last.
-/
def commandRequest (environment : String → Option String) (general : Given)
    (form : CommandForm) (arguments : List String) : Except Refusal Request := do
  let (given, operands) ← readAll form.forms form.operands [] arguments
  let all ← withEnvironment environment given form.forms
  let before ← withEnvironment environment general (generalForms programName)
  match form.command? all operands with
  | none => throw .usage
  | some command =>
    return {
      settingsFile := (given.lookup settingsForm.name).or (before.lookup settingsForm.name)
      command }

/-- The request that arguments make. -/
def request (environment : String → Option String) (arguments : List String) :
    Except Refusal Request := do
  let (general, rest) ← leadingOptions (generalForms programName) [] arguments
  match rest with
  | [] => throw .usage
  | name :: later =>
    if name = helpName then
      throw (helpWith later)
    else
      match commandForm? name with
      | none => throw .usage
      | some form => commandRequest environment general form later

end CloudPlan.CommandLine
