import CloudPlan.Code.Generation
import CloudPlan.Proofs.Outcome

/-!
# When there is code

The blocks of a project are those that the writer puts first and then those of the
resources, in their order.  There are files exactly when every resource can be mapped.
-/

namespace CloudPlan.Code.Registry

variable {registry : Registry} {engine : String} {context : Context}
  {architecture : Architecture}

/-- The blocks of a resource; none if it cannot be mapped. -/
def blocksOf (registry : Registry) (engine : String) (context : Context)
    (resource : Resource) : List Block :=
  (registry.mapResource engine context resource).toOption.getD []

/-- The blocks of an architecture, with those that every project has. -/
def projectBlocks (registry : Registry) (engine : String) (writer : Writer)
    (architecture : Architecture) : List Block :=
  writer.preamble architecture ++
    architecture.resources.flatMap
      (registry.blocksOf engine (Registry.context writer architecture))

/-- Every one of the resources can be mapped. -/
def MapsAll (registry : Registry) (engine : String) (context : Context)
    (resources : List Resource) : Prop :=
  ∀ resource ∈ resources, ∃ blocks, registry.mapResource engine context resource = .ok blocks

theorem blocksOf_eq
    {resource : Resource}
    {blocks : List Block}
    (mapped : registry.mapResource engine context resource = .ok blocks) :
    registry.blocksOf engine context resource = blocks := by
  rw [blocksOf, mapped]
  rfl

theorem mapsAll_cons_iff
    {resource : Resource}
    {rest : List Resource} :
    registry.MapsAll engine context (resource :: rest) ↔
      (∃ blocks, registry.mapResource engine context resource = .ok blocks) ∧
        registry.MapsAll engine context rest :=
  List.forall_mem_cons

theorem mapAll_eq_ok_iff
    {resources : List Resource}
    {blocks : List Block} :
    registry.mapAll engine context resources = .ok blocks ↔
      registry.MapsAll engine context resources ∧
        resources.flatMap (registry.blocksOf engine context) = blocks := by
  induction resources generalizing blocks with
  | nil => simp [mapAll, MapsAll]
  | cons resource rest inductionHypothesis =>
      rw [mapsAll_cons_iff, List.flatMap_cons, mapAll]
      cases own : registry.mapResource engine context resource with
      | error error => split <;> simp_all
      | ok first =>
          rw [blocksOf_eq own]
          cases others : registry.mapAll engine context rest with
          | ok more =>
              obtain ⟨mapped, rfl⟩ := inductionHypothesis.1 others
              simp [mapped]
          | error problems =>
              have unmapped : ¬registry.MapsAll engine context rest := by
                intro mapped
                have succeeds := inductionHypothesis.2 ⟨mapped, rfl⟩
                rw [others] at succeeds
                contradiction
              simp [unmapped]

theorem problems_of_mapAll
    {resources : List Resource}
    {problems : List Problem}
    (fails : registry.mapAll engine context resources = .error problems) :
    ∀ problem ∈ problems, ∃ error resource, problem = .ofGeneration error resource := by
  induction resources generalizing problems with
  | nil => simp [mapAll] at fails
  | cons resource rest inductionHypothesis =>
      rw [mapAll] at fails
      split at fails
      next => contradiction
      next others =>
        cases fails
        exact inductionHypothesis others
      next =>
        cases fails
        simp
      next others =>
        cases fails
        exact List.forall_mem_cons.2 ⟨⟨_, _, rfl⟩, inductionHypothesis others⟩

/-- All that a generation reports are errors of the generation. -/
theorem problems_of_generate
    {problems : List Problem}
    (fails : (registry.generate engine architecture).outcome = .error problems) :
    ∀ problem ∈ problems, ∃ error resource, problem = .ofGeneration error resource := by
  rw [generate, build] at fails
  split at fails
  next =>
    cases fails
    simp
  next writer _ =>
    cases mapped : registry.mapAll engine (context writer architecture) architecture.resources with
    | ok blocks => simp [mapped, Except.map] at fails
    | error found =>
        simp only [mapped, Except.map, Except.error.injEq] at fails
        exact fails ▸ problems_of_mapAll mapped

/-- There are files exactly when the engine has a writer and every resource can be mapped. -/
theorem generate_eq_ok_iff
    {files : List GeneratedFile} :
    (registry.generate engine architecture).outcome = .ok files ↔
      ∃ writer, registry.writer? engine = some writer ∧
        registry.MapsAll engine (Registry.context writer architecture) architecture.resources ∧
        filesOf writer (registry.projectBlocks engine writer architecture) = files := by
  rw [generate, build]
  cases registry.writer? engine with
  | none => simp
  | some writer =>
      simp only [map_eq_ok_iff, mapAll_eq_ok_iff, Option.some.injEq, exists_eq_left', and_assoc]
      constructor
      · rintro ⟨blocks, mapped, rfl, made⟩
        exact ⟨mapped, made⟩
      · rintro ⟨mapped, made⟩
        exact ⟨_, mapped, rfl, made⟩

end CloudPlan.Code.Registry
