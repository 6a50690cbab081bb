import CloudPlan.Code.Context
import CloudPlan.Code.Writer

/-!
# Engines and mappers

The writers of engines, and for every engine the mappers that turn resources into
blocks.
-/

namespace CloudPlan.Code

/-- Why a resource cannot be mapped: what is wrong, and with which resource. -/
structure MappingError where
  /-- The id of the resource. -/
  resource : String
  /-- What is wrong with it. -/
  reason : String
deriving DecidableEq

/-- Why there is no code. -/
inductive GenerationError where
  | unsupportedEngine (engine : String)
  | unsupportedType (engine typeName : String)
  | mapping (error : MappingError)
  | system (failure : String)
deriving DecidableEq

namespace GenerationError

/-- The stable name of the kind of error. -/
def code : GenerationError → String
  | unsupportedEngine _ => "UnsupportedEngine"
  | unsupportedType _ _ => "UnsupportedResourceType"
  | mapping _ => "MappingFailed"
  | system _ => "IoError"

/-- The message of an error. -/
def message : GenerationError → String
  | unsupportedEngine engine => "Unsupported IaC engine: " ++ engine
  | unsupportedType engine typeName =>
    "No " ++ engine ++ " mapper registered for resource type '" ++ typeName ++ "'"
  | mapping error => "Cannot map resource '" ++ error.resource ++ "': " ++ error.reason
  | system failure => "IO error: " ++ failure

end GenerationError

/-- Turns a resource into blocks, or fails in any way that generation can. -/
abbrev Mapper := Resource → Context → Except GenerationError (List Block)

/-- A mapper for the resources of a type. -/
structure MapperEntry where
  /-- The engine that the blocks are for. -/
  engine : String
  /-- The type of the resources. -/
  typeName : String
  /-- The mapper. -/
  mapper : Mapper

/-- An entry is for an engine and a type. -/
def MapperEntry.isFor (entry : MapperEntry) (engine typeName : String) : Bool :=
  entry.engine == engine && entry.typeName == typeName

/-- The known engines and mappers. -/
structure Registry where
  /-- The writers, one for an engine. -/
  writers : List Writer := []
  /-- The mappers, one for an engine and a type. -/
  mappers : List MapperEntry := []

namespace Registry

/-- The writer of an engine. -/
def writer? (registry : Registry) (engine : String) : Option Writer :=
  registry.writers.find? (·.engine == engine)

/-- The mapper for a type under an engine. -/
def mapper? (registry : Registry) (engine typeName : String) : Option Mapper :=
  (registry.mappers.find? (·.isFor engine typeName)).map (·.mapper)

/-- The registry with a writer, which takes the place of the one its engine had. -/
def registerWriter (registry : Registry) (writer : Writer) : Registry :=
  { registry with
    writers := writer :: registry.writers.filter (·.engine != writer.engine) }

/-- The registry with a mapper, which takes the place of the one its type had. -/
def registerMapper (registry : Registry) (entry : MapperEntry) : Registry :=
  { registry with
    mappers :=
      entry :: registry.mappers.filter fun other => !other.isFor entry.engine entry.typeName }

/-- Texts in ascending order. -/
def sorted (texts : List String) : List String :=
  texts.mergeSort fun left right => decide (left ≤ right)

/-- The engines, in ascending order. -/
def engines (registry : Registry) : List String :=
  sorted (registry.writers.map (·.engine))

/-- The types that have a mapper under an engine, in ascending order. -/
def supportedTypes (registry : Registry) (engine : String) : List String :=
  sorted ((registry.mappers.filter (·.engine == engine)).map (·.typeName))

/-- The registry in one line. -/
def summary (registry : Registry) : String :=
  "CodegenRegistry \x7b engines: " ++ Text.quotedList registry.engines ++ ", mappers: " ++
    toString registry.mappers.length ++ " \x7d"

end Registry

end CloudPlan.Code
