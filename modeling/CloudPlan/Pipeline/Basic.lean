import CloudPlan.Architecture.OfGraph
import CloudPlan.Architecture.Order
import CloudPlan.Catalog.Aws
import CloudPlan.Code.Generation
import CloudPlan.Constraint.Files
import CloudPlan.Constraint.Store
import CloudPlan.Constraint.Violation
import CloudPlan.Diagram.Resolution
import CloudPlan.Pipeline.Project
import CloudPlan.Settings.Basic
import CloudPlan.Terraform.Aws

/-!
# From diagrams to code

A diagram is read, checked against the constraints on the types it mentions, made into
an architecture, put in order and turned into files.
-/

namespace CloudPlan

/-- What stops a run. -/
inductive PipelineError where
  | diagram (error : Diagram.Error)
  | architecture (error : Architecture.Error)
  | constraint (error : ConstraintError)
  | project (error : ProjectError)

namespace PipelineError

/-- The stable name of the kind of error. -/
def code : PipelineError → String
  | diagram error => error.code
  | architecture error => error.code
  | constraint error => error.code
  | project error => error.code

/-- The message of an error. -/
def message : PipelineError → String
  | diagram error => error.message
  | architecture error => error.message
  | constraint error => error.message
  | project error => error.message

/-- The resource that an error is about, if it is about one. -/
def resource? : PipelineError → Option String
  | architecture (.cyclic cycle) => some (Architecture.Error.cycleStart cycle)
  | _ => none

/-- The problem that an error is. -/
def problem (error : PipelineError) : Code.Problem where
  code := error.code
  message := error.message
  resource := error.resource?

end PipelineError

/-- The problem that a violation is. -/
def Violation.problem (violation : Violation) : Code.Problem where
  code := "ValidationFailed"
  message := violation.message
  resource := some violation.node.id
  constraint := some violation.fault.kind.name

/-- What comes of a diagram: an architecture, or the violations for which there is none. -/
inductive Outcome where
  | mapped (architecture : Architecture)
  | invalid (violations : List Violation)

namespace Outcome

/-- There is an architecture. -/
def isValid : Outcome → Bool
  | mapped _ => true
  | invalid _ => false

/-- The architecture, if there is one. -/
def architecture? : Outcome → Option Architecture
  | mapped architecture => some architecture
  | invalid _ => none

/-- The violations; none if there is an architecture. -/
def violations : Outcome → List Violation
  | mapped _ => []
  | invalid violations => violations

end Outcome

/-- What diagrams are worked on with. -/
structure Pipeline where
  /-- The resource types and hidden rules. -/
  catalog : Catalog := .builtIn
  /-- The engines and mappers. -/
  code : Code.Registry := .builtIn
  /-- Where constraints come from. -/
  constraints : ConstraintStore := {}

namespace Pipeline

/-- The pipeline that settings ask for. -/
def ofSettings {m : Type → Type} [Monad m] [FileSystem m] (settings : Settings) :
    m (Except ConstraintError Pipeline) := do
  return (← settings.loadConstraints).map fun set => { constraints := { constraints := set } }

/-- The pipeline in one line. -/
def summary (pipeline : Pipeline) : String :=
  "Pipeline \x7b resource_types: " ++ toString pipeline.catalog.size ++ ", engines: " ++
    Text.quotedList pipeline.code.engines ++ " \x7d"

/-- The constraints on the types that the nodes of a graph mention. -/
def constraintsFor (pipeline : Pipeline) (graph : Graph) :
    Except PipelineError ConstraintSet :=
  (pipeline.constraints.fetch (graph.nodes.map (·.typeName))).1.mapError
    fun failure => .constraint (.store failure)

/-- Checks a graph and, if nothing is wrong with it, makes it into an architecture. -/
def processGraph (pipeline : Pipeline) (graph : Graph) (provider : Provider)
    (region : String) : Except PipelineError Outcome := do
  let set ← pipeline.constraintsFor graph
  match set.violations pipeline.catalog graph region with
  | [] =>
    let architecture ← (Architecture.ofGraph pipeline.catalog graph provider region).mapError
      .architecture
    return .mapped architecture
  | violations => return .invalid violations

/-- Reads a diagram, checks it and, if nothing is wrong with it, makes it into an architecture. -/
def process (pipeline : Pipeline) (raw : List UInt8) (provider : Provider)
    (region : String) : Except PipelineError Outcome := do
  let graph ← (Graph.ofBytes raw).mapError .diagram
  pipeline.processGraph graph provider region

/-- Puts an architecture in order and generates its code. -/
def generate (pipeline : Pipeline) (engine : String) (architecture : Architecture) :
    Code.Report :=
  match architecture.sort with
  | .ok sorted => pipeline.code.generate engine sorted
  | .error error => .failed engine [(PipelineError.architecture error).problem]

/-- Goes from a diagram to the code; all that goes wrong is a problem in the report. -/
def compile (pipeline : Pipeline) (raw : List UInt8) (provider : Provider) (region : String)
    (engine : String) : Code.Report :=
  match pipeline.process raw provider region with
  | .ok (.mapped architecture) => pipeline.generate engine architecture
  | .ok (.invalid violations) => .failed engine (violations.map (·.problem))
  | .error error => .failed engine [error.problem]

/-- Generates the code of a project. -/
def generateProject (pipeline : Pipeline) (store : ProjectStore) (id : ProjectId)
    (engine : String) : Except PipelineError Code.Report := do
  let architecture ← (store.load id).mapError .project
  return pipeline.generate engine architecture

end Pipeline

end CloudPlan
