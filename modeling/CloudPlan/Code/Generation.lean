import CloudPlan.Code.Registry
import CloudPlan.Files.Output

/-!
# Generation

The files of an architecture.  Every resource that cannot be mapped is reported, and
then there are no files at all.
-/

namespace CloudPlan.Code

/-- A problem as it is reported. -/
structure Problem where
  /-- The stable name of the kind of problem. -/
  code : String
  /-- The message. -/
  message : String
  /-- The resource that has the problem. -/
  resource : Option String := none
  /-- The kind of constraint that is violated. -/
  constraint : Option String := none
deriving DecidableEq

/-- The problem that an error is, for a resource if there is one. -/
def Problem.ofGeneration (error : GenerationError) (resource : Option String) : Problem where
  code := error.code
  message := error.message
  resource

/-- What a run comes to: either every file, or the problems. -/
structure Report where
  /-- The engine. -/
  engine : String
  /-- The files, or the problems. -/
  outcome : Except (List Problem) (List GeneratedFile)

namespace Report

/-- A report of problems. -/
def failed (engine : String) (problems : List Problem) : Report :=
  ⟨engine, .error problems⟩

/-- A report of files. -/
def success (engine : String) (files : List GeneratedFile) : Report :=
  ⟨engine, .ok files⟩

/-- There are files. -/
def isSuccess (report : Report) : Bool :=
  report.outcome.isOk

/-- The files; none if there are problems. -/
def files (report : Report) : List GeneratedFile :=
  report.outcome.toOption.getD []

/-- The problems; none if there are files. -/
def problems (report : Report) : List Problem :=
  match report.outcome with
  | .error problems => problems
  | .ok _ => []

end Report

/-- The number that is put after a name, for the attempts after the first one. -/
def numbered (base : String) (attempt : Nat) : String :=
  if attempt = 0 then base else base ++ "_" ++ toString (attempt + 1)

/-- The first of the numbered names that is not taken; one more than are taken suffice. -/
def freshName (taken : List String) (base : String) : String :=
  (((List.range (taken.length + 1)).map (numbered base)).find? (· ∉ taken)).getD base

/-- Identifiers for resources, all different, after those that are taken. -/
def assignNames (identifier : String → String) (taken : List String) :
    List Resource → List (String × String)
  | [] => []
  | resource :: rest =>
    let name := freshName taken (identifier resource.name)
    (resource.id, name) :: assignNames identifier (name :: taken) rest

/-- The identifiers of the resources of an architecture. -/
def localNames (writer : Writer) (architecture : Architecture) : List (String × String) :=
  assignNames writer.identifier [] architecture.resources

namespace Registry

/-- The context in which the resources of an architecture are mapped. -/
def context (writer : Writer) (architecture : Architecture) : Context :=
  ⟨architecture, localNames writer architecture⟩

/-- The blocks of a resource. -/
def mapResource (registry : Registry) (engine : String) (context : Context)
    (resource : Resource) : Except GenerationError (List Block) :=
  match registry.mapper? engine resource.typeName with
  | none => .error (.unsupportedType engine resource.typeName)
  | some mapper => mapper resource context

/-- The blocks of resources one after the other, or the problems of all that cannot be mapped. -/
def mapAll (registry : Registry) (engine : String) (context : Context) :
    List Resource → Except (List Problem) (List Block)
  | [] => .ok []
  | resource :: rest =>
    match registry.mapResource engine context resource, mapAll registry engine context rest with
    | .ok blocks, .ok more => .ok (blocks ++ more)
    | .ok _, .error problems => .error problems
    | .error error, .ok _ => .error [.ofGeneration error (some resource.id)]
    | .error error, .error problems =>
      .error (.ofGeneration error (some resource.id) :: problems)

/-- The files that a writer makes of blocks. -/
def filesOf (writer : Writer) (blocks : List Block) : List GeneratedFile :=
  (writer.route blocks).map fun file => ⟨file.1, writer.render file.2⟩

/-- The files of an architecture, or the problems. -/
def build (registry : Registry) (engine : String) (architecture : Architecture) :
    Except (List Problem) (List GeneratedFile) :=
  match registry.writer? engine with
  | none => .error [.ofGeneration (.unsupportedEngine engine) none]
  | some writer =>
    (registry.mapAll engine (context writer architecture) architecture.resources).map
      fun blocks => filesOf writer (writer.preamble architecture ++ blocks)

/-- Generates the code of an architecture for an engine. -/
def generate (registry : Registry) (engine : String) (architecture : Architecture) : Report :=
  ⟨engine, registry.build engine architecture⟩

end Registry

end CloudPlan.Code
