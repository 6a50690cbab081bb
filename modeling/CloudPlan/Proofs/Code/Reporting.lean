import CloudPlan.Proofs.Code.Generation

/-!
# What generation reports

A resource fails when the engine has no mapper for its type or when its mapper refuses it.
Each resource that fails is reported once, under its own id and in the order of the
resources.  What is reported has files or problems, and never both.
-/

namespace CloudPlan.Code

/-- A report is of files without problems, or else of problems, at least one, without files. -/
def Report.AllOrNothing (report : Report) : Prop :=
  report.isSuccess = true ∧ report.problems = [] ∨
    report.isSuccess = false ∧ report.files = [] ∧ report.problems ≠ []

theorem Report.isSuccess_iff
    {report : Report} :
    report.isSuccess = true ↔ ∃ files, report.outcome = .ok files := by
  rw [isSuccess]
  cases report.outcome with
  | ok files => simp [Except.isOk, Except.toBool]
  | error problems => simp [Except.isOk, Except.toBool]

theorem allOrNothing_of_ok
    {report : Report}
    {files : List GeneratedFile}
    (succeeds : report.outcome = .ok files) :
    report.AllOrNothing := by
  refine Or.inl ⟨Report.isSuccess_iff.2 ⟨files, succeeds⟩, ?_⟩
  rw [Report.problems, succeeds]

theorem allOrNothing_of_error
    {report : Report}
    {problems : List Problem}
    (fails : report.outcome = .error problems)
    (someProblem : problems ≠ []) :
    report.AllOrNothing := by
  refine Or.inr ⟨?_, ?_, ?_⟩
  · rw [Report.isSuccess, fails]
    rfl
  · rw [Report.files, fails]
    rfl
  · rw [Report.problems, fails]
    exact someProblem

namespace Registry

/-- A mapper of the engine makes blocks of a resource. -/
def IsMapped (registry : Registry) (engine : String) (context : Context)
    (resource : Resource) : Prop :=
  ∃ mapper blocks, registry.mapper? engine resource.typeName = some mapper ∧
    mapper resource context = .ok blocks

/-- Why a resource has no blocks. -/
inductive Fails (registry : Registry) (engine : String) (context : Context)
    (resource : Resource) : GenerationError → Prop
  /-- The engine has no mapper for the type. -/
  | unmapped :
      registry.mapper? engine resource.typeName = none →
      Fails registry engine context resource (.unsupportedType engine resource.typeName)
  /-- The mapper fails. -/
  | refused {mapper : Mapper} {error : GenerationError} :
      registry.mapper? engine resource.typeName = some mapper →
      mapper resource context = .error error →
      Fails registry engine context resource error

/-- Problems report the failures among resources, one for each, in the order of the resources
and under their ids. -/
inductive Reports (registry : Registry) (engine : String) (context : Context) :
    List Resource → List Problem → Prop
  /-- Nothing is reported when there is nothing to map. -/
  | nil : Reports registry engine context [] []
  /-- Nothing is reported for a resource that is mapped. -/
  | mapped {resource : Resource} {rest : List Resource} {problems : List Problem} :
      registry.IsMapped engine context resource →
      Reports registry engine context rest problems →
      Reports registry engine context (resource :: rest) problems
  /-- A resource that fails is reported. -/
  | failed {resource : Resource} {error : GenerationError} {rest : List Resource}
      {problems : List Problem} :
      registry.Fails engine context resource error →
      Reports registry engine context rest problems →
      Reports registry engine context (resource :: rest)
        (.ofGeneration error (some resource.id) :: problems)

variable {registry : Registry} {engine : String} {context : Context} {resource : Resource}
  {architecture : Architecture}

/-! ## One resource -/

theorem isMapped_iff :
    registry.IsMapped engine context resource ↔
      ∃ blocks, registry.mapResource engine context resource = .ok blocks := by
  rw [IsMapped, mapResource]
  cases registry.mapper? engine resource.typeName with
  | none => simp
  | some mapper => simp

theorem fails_iff
    {error : GenerationError} :
    registry.Fails engine context resource error ↔
      registry.mapResource engine context resource = .error error := by
  rw [mapResource]
  constructor
  · rintro (unknown | ⟨known, refuses⟩)
    · rw [unknown]
    · rw [known]
      exact refuses
  · cases found : registry.mapper? engine resource.typeName with
    | none =>
        rintro ⟨⟩
        exact .unmapped found
    | some mapper => exact .refused found

/-! ## All resources -/

theorem mapsAll_iff
    {resources : List Resource} :
    registry.MapsAll engine context resources ↔
      ∀ resource ∈ resources, registry.IsMapped engine context resource := by
  simp only [MapsAll, isMapped_iff]

theorem reports_nil_of_mapsAll
    {resources : List Resource}
    (mapped : registry.MapsAll engine context resources) :
    registry.Reports engine context resources [] := by
  induction resources with
  | nil => exact .nil
  | cons resource rest inductionHypothesis =>
      obtain ⟨own, others⟩ := mapsAll_cons_iff.1 mapped
      exact .mapped (isMapped_iff.2 own) (inductionHypothesis others)

/-- The problems that come of mapping resources one after the other report their failures. -/
theorem reports_of_mapAll
    {resources : List Resource}
    {problems : List Problem}
    (fails : registry.mapAll engine context resources = .error problems) :
    problems ≠ [] ∧ registry.Reports engine context resources problems := by
  induction resources generalizing problems with
  | nil => simp [mapAll] at fails
  | cons resource rest inductionHypothesis =>
      rw [mapAll] at fails
      split at fails
      next => contradiction
      next own others =>
        cases fails
        obtain ⟨someProblem, reports⟩ := inductionHypothesis others
        exact ⟨someProblem, .mapped (isMapped_iff.2 ⟨_, own⟩) reports⟩
      next own others =>
        cases fails
        have reports := reports_nil_of_mapsAll (mapAll_eq_ok_iff.1 others).1
        exact ⟨by simp, .failed (fails_iff.2 own) reports⟩
      next own others =>
        cases fails
        exact ⟨by simp, .failed (fails_iff.2 own) (inductionHypothesis others).2⟩

/-! ## Generation -/

theorem generate_of_no_writer
    (noWriter : registry.writer? engine = none) :
    (registry.generate engine architecture).outcome =
      .error [.ofGeneration (.unsupportedEngine engine) none] := by
  rw [generate, build, noWriter]

/-- Generation for an engine with a writer comes to files when every resource is mapped, and to
a report of the failures otherwise. -/
theorem generate_cases
    (architecture : Architecture)
    {writer : Writer}
    (isWriter : registry.writer? engine = some writer) :
    (∃ files, (registry.generate engine architecture).outcome = .ok files ∧
      registry.MapsAll engine (Registry.context writer architecture) architecture.resources) ∨
    ∃ problems, (registry.generate engine architecture).outcome = .error problems ∧
      problems ≠ [] ∧
      registry.Reports engine (Registry.context writer architecture) architecture.resources
        problems := by
  cases generated : (registry.generate engine architecture).outcome with
  | ok files =>
      obtain ⟨other, isOther, mapped, -⟩ := generate_eq_ok_iff.1 generated
      obtain rfl : writer = other := Option.some.inj (isWriter.symm.trans isOther)
      exact Or.inl ⟨files, rfl, mapped⟩
  | error problems =>
      rw [generate, build, isWriter] at generated
      exact Or.inr ⟨problems, rfl, reports_of_mapAll (map_eq_error_iff.1 generated)⟩

theorem allOrNothing_generate
    (registry : Registry)
    (engine : String)
    (architecture : Architecture) :
    (registry.generate engine architecture).AllOrNothing := by
  cases found : registry.writer? engine with
  | none => exact allOrNothing_of_error (generate_of_no_writer found) (List.cons_ne_nil _ _)
  | some writer =>
      rcases generate_cases architecture found with
        ⟨files, succeeds, -⟩ | ⟨problems, fails, someProblem, -⟩
      · exact allOrNothing_of_ok succeeds
      · exact allOrNothing_of_error fails someProblem

theorem isSuccess_generate_iff :
    (registry.generate engine architecture).isSuccess = true ↔
      ∃ writer, registry.writer? engine = some writer ∧
        ∀ resource ∈ architecture.resources,
          registry.IsMapped engine (Registry.context writer architecture) resource := by
  simp only [Report.isSuccess_iff, generate_eq_ok_iff, mapsAll_iff]
  constructor
  · rintro ⟨files, writer, isWriter, mapped, -⟩
    exact ⟨writer, isWriter, mapped⟩
  · rintro ⟨writer, isWriter, mapped⟩
    exact ⟨_, writer, isWriter, mapped, rfl⟩

/-- What is reported for an engine with a writer are the failures of the resources. -/
theorem reports_generate
    {writer : Writer}
    (isWriter : registry.writer? engine = some writer) :
    registry.Reports engine (Registry.context writer architecture) architecture.resources
      (registry.generate engine architecture).problems := by
  rcases generate_cases architecture isWriter with
    ⟨files, succeeds, mapped⟩ | ⟨problems, fails, -, reports⟩
  · rw [Report.problems, succeeds]
    exact reports_nil_of_mapsAll mapped
  · rw [Report.problems, fails]
    exact reports

end Registry

end CloudPlan.Code
