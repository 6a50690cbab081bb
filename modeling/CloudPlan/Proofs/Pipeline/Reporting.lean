import CloudPlan.Proofs.Code.Reporting
import CloudPlan.Proofs.Pipeline.Checking

/-!
# What a run reports

A run stops at the first stage that fails: reading, fetching constraints, checking, making
the architecture, sorting it, or generating code.  Wherever it stops it reports at least one
problem, and there are no files; otherwise there are files and nothing to report.
-/

namespace CloudPlan.Pipeline

open Code (allOrNothing_of_error)

variable {pipeline : Pipeline}

theorem allOrNothing_generate
    (pipeline : Pipeline)
    (engine : String)
    (architecture : Architecture) :
    (pipeline.generate engine architecture).AllOrNothing := by
  rw [generate]
  cases architecture.sort with
  | ok sorted => exact Code.Registry.allOrNothing_generate pipeline.code engine sorted
  | error error => exact allOrNothing_of_error rfl (List.cons_ne_nil _ _)

theorem allOrNothing_compile
    (pipeline : Pipeline)
    (raw : List UInt8)
    (provider : Provider)
    (region engine : String) :
    (pipeline.compile raw provider region engine).AllOrNothing := by
  rw [compile]
  cases processed : pipeline.process raw provider region with
  | error error => exact allOrNothing_of_error rfl (List.cons_ne_nil _ _)
  | ok outcome =>
      cases outcome with
      | mapped architecture => exact allOrNothing_generate pipeline engine architecture
      | invalid violations =>
          obtain ⟨_, _, _, _, _, someViolation⟩ := process_eq_invalid_iff.1 processed
          exact allOrNothing_of_error rfl (mt List.map_eq_nil_iff.1 someViolation)

/-- Code is generated for all resources or for none.  There are files exactly when the engine has
a writer and every resource is mapped; a missing writer is all that is reported where there is none,
and with a writer the resources that fail are reported one by one.  Whole runs come to files or to
problems in the same way. -/
theorem generates_all_or_reports
    (registry : Code.Registry)
    (pipeline : Pipeline)
    (engine : String)
    (architecture : Architecture)
    (raw : List UInt8)
    (provider : Provider)
    (region : String) :
    (registry.generate engine architecture).AllOrNothing ∧
    ((registry.generate engine architecture).isSuccess = true ↔
      ∃ writer, registry.writer? engine = some writer ∧
        ∀ resource ∈ architecture.resources,
          registry.IsMapped engine (Code.Registry.context writer architecture) resource) ∧
    (registry.writer? engine = none →
      (registry.generate engine architecture).problems =
        [.ofGeneration (.unsupportedEngine engine) none]) ∧
    (∀ writer, registry.writer? engine = some writer →
      registry.Reports engine (Code.Registry.context writer architecture) architecture.resources
        (registry.generate engine architecture).problems) ∧
    (pipeline.generate engine architecture).AllOrNothing ∧
    (pipeline.compile raw provider region engine).AllOrNothing := by
  refine ⟨Code.Registry.allOrNothing_generate registry engine architecture,
    Code.Registry.isSuccess_generate_iff, ?_, ?_,
    allOrNothing_generate pipeline engine architecture,
    allOrNothing_compile pipeline raw provider region engine⟩
  · intro noWriter
    rw [Code.Report.problems, Code.Registry.generate_of_no_writer noWriter]
  · intro writer isWriter
    exact Code.Registry.reports_generate isWriter

/-- An engine that draws lines, runs out of ink with curves, and takes areas for the fault of the
pen. -/
def sketches : Code.Registry where
  writers := [{
    engine := "sketch"
    preamble := fun _ => []
    fileFor := (·.type)
    fileOrder := []
    render := fun _ => "" }]
  mappers := [
    ⟨"sketch", "Line", fun resource _ => .ok [.output resource.id]⟩,
    ⟨"sketch", "Curve", fun _ _ => .error (.system "no ink")⟩,
    ⟨"sketch", "Area", fun _ _ => .error (.mapping ⟨"pen", "too thin"⟩)⟩]

/-- A line between others that cannot be drawn. -/
def drawing : Architecture where
  provider := .aws
  region := ""
  resources := [.ofType "arc" "Curve", .ofType "edge" "Line", .ofType "disc" "Area",
    .ofType "label" "Text"]

/-- Each of the three is reported under its own id, whatever its mapper blames. -/
theorem reports_of_sketches :
    ∃ writer, sketches.writer? "sketch" = some writer ∧
      sketches.Reports "sketch" (Code.Registry.context writer drawing) drawing.resources [
        { code := "IoError", message := "IO error: no ink", resource := some "arc" },
        { code := "MappingFailed"
          message := "Cannot map resource 'pen': too thin"
          resource := some "disc" },
        { code := "UnsupportedResourceType"
          message := "No sketch mapper registered for resource type 'Text'"
          resource := some "label" }] := by
  obtain ⟨-, -, -, reports, -⟩ :=
    generates_all_or_reports sketches {} "sketch" drawing [] .aws ""
  exact ⟨_, rfl, reports _ rfl⟩

end CloudPlan.Pipeline
