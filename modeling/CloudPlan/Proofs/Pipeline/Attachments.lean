import CloudPlan.Proofs.Architecture.Idempotence
import CloudPlan.Proofs.Pipeline.Generation
import CloudPlan.Proofs.Terraform.Attachments

/-!
# Device names in compiled diagrams

Whatever diagram is compiled, the volumes of an instance are attached under device names that
begin again behind the eleventh.  A server with twelve volumes, all of them drawn, has two under
one name.
-/

namespace CloudPlan.Pipeline

open Terraform Terraform.Aws

variable {pipeline : Pipeline} {raw : List UInt8} {provider : Provider} {region name : String}

/-- There is a writer for one engine only. -/
theorem name_eq_of_writer?_builtIn
    {found : Code.Writer}
    (isWriter : Code.Registry.builtIn.writer? name = some found) :
    name = engine := by
  have isEngine := List.find?_some isWriter
  have isOnly := List.mem_singleton.1 (List.mem_of_find?_eq_some isWriter)
  rw [isOnly] at isEngine
  exact (beq_iff_eq.1 isEngine).symm

/-- Files come of a diagram when it is made into an architecture that can be sorted and whose
resources can be mapped. -/
theorem compile_eq_ok_iff
    (usual : pipeline.code = .builtIn)
    {files : List GeneratedFile} :
    (pipeline.compile raw provider region name).outcome = .ok files ↔
      name = engine ∧ ∃ architecture sorted,
        pipeline.process raw provider region = .ok (.mapped architecture) ∧
        architecture.sort = .ok sorted ∧ Mappable sorted ∧
        Code.Registry.filesOf writer (projectBlocks sorted) = files := by
  constructor
  · intro succeeds
    rw [compile] at succeeds
    split at succeeds
    next architecture mapped =>
      rw [generate] at succeeds
      split at succeeds
      next sorted sorts =>
        rw [usual] at succeeds
        obtain ⟨found, isWriter, -⟩ := Code.Registry.generate_eq_ok_iff.1 succeeds
        obtain rfl := name_eq_of_writer?_builtIn isWriter
        obtain ⟨mappable, made⟩ := generate_eq_ok_iff.1 succeeds
        exact ⟨rfl, architecture, sorted, mapped, sorts, mappable, made⟩
      next => contradiction
    next => contradiction
    next => contradiction
  · rintro ⟨rfl, architecture, sorted, mapped, sorts, mappable, made⟩
    have generated := generate_eq_ok_iff.2 ⟨mappable, made⟩
    simp only [compile, mapped, generate, sorts, usual, generated]

/-- What is sorted after a diagram was made into it is well linked. -/
theorem wellLinked_of_sorted
    {architecture sorted : Architecture}
    (mapped : pipeline.process raw provider region = .ok (.mapped architecture))
    (sorts : architecture.sort = .ok sorted) :
    sorted.WellLinked := by
  obtain ⟨graph, read, _, _, _, isMade⟩ := process_eq_mapped_iff.1 mapped
  exact (Architecture.wellLinked_of_ofGraph (Graph.isForest_of_ofBytes read) isMade).sort sorts

/-- When a diagram is compiled, any two attachments to one instance stand for different places
among its volumes, and share a device name exactly when these places differ by a multiple of
eleven.  So no attachments clash exactly when no instance contains more than eleven volumes. -/
theorem attachments_share_devices_by_place
    (usual : pipeline.code = .builtIn)
    {files : List GeneratedFile}
    (compiles : (pipeline.compile raw provider region name).outcome = .ok files) :
    ∃ architecture sorted,
      pipeline.process raw provider region = .ok (.mapped architecture) ∧
      architecture.sort = .ok sorted ∧
      Code.Registry.filesOf writer (projectBlocks sorted) = files ∧
      ((projectBlocks sorted).Pairwise fun first second =>
        IsAttachment first → IsAttachment second →
          first.attributes.lookup "instance_id" = second.attributes.lookup "instance_id" →
          ShareByPlace (contextOf sorted) first second) ∧
      (DevicesApart (projectBlocks sorted) ↔
        ∀ host ∈ sorted.resources, host.typeName = "EC2" →
          ((contextOf sorted).children host "EBSVolume").length ≤ 11) := by
  obtain ⟨-, architecture, sorted, mapped, sorts, mappable, made⟩ :=
    (compile_eq_ok_iff usual).1 compiles
  have wellLinked := wellLinked_of_sorted mapped sorts
  exact ⟨architecture, sorted, mapped, sorts, made, pairwise_shareByPlace wellLinked mappable,
    devicesApart_iff wellLinked mappable⟩

/-! ## Instances and volumes -/

/-- Instances and volumes can be mapped. -/
theorem mappable_of_instances
    {architecture : Architecture}
    (typed : ∀ resource ∈ architecture.resources, resource.typeName ∈ ["EC2", "EBSVolume"]) :
    Mappable architecture := by
  intro resource member
  have named := Code.named_context writer architecture
  have plain : ∀ typeName ∈ ["EC2", "EBSVolume"], (mappers.lookup typeName).isSome ∧
      (kind? typeName).isSome ∧ typeName ∉ ["Subnet", "RouteTable", "Lambda"] := by decide
  obtain ⟨known, hasKind, needsNothing⟩ := plain _ (typed resource member)
  obtain ⟨kind, isKind⟩ := Option.isSome_iff_exists.1 hasKind
  obtain ⟨ready, -⟩ := ready_of_type named member rfl needsNothing isKind
  exact (mapResource_succeeds_iff named member known).2 ready

/-- A diagram that no constraints are set for is made into what its expansion leads to. -/
theorem process_of_expand
    {graph : Graph}
    {architecture : Architecture}
    {added : Nat}
    (read : Graph.ofBytes raw = .ok graph)
    (known : Architecture.checkTypes .builtIn provider graph.nodes = .ok ())
    (expanded : Architecture.expand .builtIn (Architecture.drawn graph provider region) =
      { architecture, added }) :
    process {} raw provider region = .ok (.mapped architecture) := by
  have faultless : (ConstraintSet.select [] graph.typeNames).violations .builtIn graph region =
      [] := by
    rw [ConstraintSet.violations_eq_nil_iff]
    intro node _ _ constraint isConstraint
    exact absurd (ConstraintSet.mem_select_iff.1 isConstraint).1 List.not_mem_nil
  refine process_eq_mapped_iff.2 ⟨_, read, _, constraintsFor_of_working rfl _, faultless, ?_⟩
  exact Architecture.ofGraph_eq_ok_iff.2 ⟨known, congrArg _ expanded, congrArg _ expanded⟩

/-! ## Servers with volumes -/

/-- A diagram of a server that contains volumes. -/
def serverDiagram (volumes : List String) : List UInt8 :=
  ("\x7b\"nodes\": [\x7b\"id\": \"web\", \"typeName\": \"EC2\"\x7d" ++
    String.join (volumes.map fun id =>
      ", \x7b\"id\": \"" ++ id ++ "\", \"typeName\": \"EBSVolume\", \"parentId\": \"web\"\x7d") ++
    "], \"edges\": []\x7d").toUTF8.data.toList

/-- The graph of the server. -/
def serverGraph (volumes : List String) : Graph where
  nodes := { id := "web", typeName := "EC2" } ::
    volumes.map fun id => { id, typeName := "EBSVolume", parentId := some "web" }
  containment := volumes.map fun id => .containing (id ++ ":parent") "web" id
  dependency := []

/-- The architecture that is drawn of the server. -/
def server (volumes : List String) : Architecture :=
  Architecture.drawn (serverGraph volumes) .aws "us-east-1"

/-- The server as it is provisioned, before its volumes. -/
def serverInOrder (volumes : List String) : Architecture :=
  { server volumes with ordered := true }

/-- The server among its resources. -/
def serverItself (volumes : List String) : Resource :=
  Architecture.ofNode (serverGraph volumes) { id := "web", typeName := "EC2" }

theorem eq_serverItself
    {volumes : List String}
    {host : Resource}
    (member : host ∈ (serverInOrder volumes).resources)
    (isInstance : host.typeName = "EC2") :
    host = serverItself volumes := by
  obtain ⟨node, isNode, rfl⟩ := List.mem_map.1 member
  rcases List.mem_cons.1 isNode with rfl | isVolume
  · rfl
  · obtain ⟨id, -, rfl⟩ := List.mem_map.1 isVolume
    exact absurd isInstance (by simp [Architecture.ofNode])

/-- No volumes are added to those that are drawn. -/
theorem expand_server
    {volumes : List String}
    (due : Architecture.dueRules .builtIn (server volumes) =
      [("web", Catalog.Aws.instanceRule)]) :
    Architecture.expand .builtIn (server volumes) = { architecture := server volumes } := by
  rw [Architecture.expand, due]
  refine Architecture.applyRules_of_nothing_missing ?_ 0
  rw [List.forall_mem_singleton, Architecture.missingIds_eq_nil_iff]
  have refused : Architecture.wantedCount .builtIn Catalog.Aws.instanceRule [] = .ok none := by
    rw [Architecture.wantedCount, Catalog.Aws.not_appliesTo_instanceRule rfl]
  exact ⟨serverItself volumes, rfl, none, refused, Nat.zero_le _⟩

/-- Servers and their volumes can be mapped. -/
theorem mappable_server (volumes : List String) : Mappable (serverInOrder volumes) := by
  apply mappable_of_instances
  intro resource member
  obtain ⟨node, isNode, rfl⟩ := List.mem_map.1 member
  rcases List.mem_cons.1 isNode with rfl | isVolume
  · exact List.mem_cons_self
  · obtain ⟨id, -, rfl⟩ := List.mem_map.1 isVolume
    exact List.mem_cons_of_mem _ List.mem_cons_self

/-- A server whose diagram is read as its graph is made into the architecture that is drawn. -/
theorem process_server
    {volumes : List String}
    (read : Graph.ofBytes (serverDiagram volumes) = .ok (serverGraph volumes))
    (known : Architecture.checkTypes .builtIn .aws (serverGraph volumes).nodes = .ok ())
    (due : Architecture.dueRules .builtIn (server volumes) =
      [("web", Catalog.Aws.instanceRule)]) :
    process {} (serverDiagram volumes) .aws "us-east-1" = .ok (.mapped (server volumes)) :=
  process_of_expand read known (expand_server due)

/-- It is compiled if it is provisioned in the order in which it is drawn. -/
theorem compile_server
    {volumes : List String}
    (processed : process {} (serverDiagram volumes) .aws "us-east-1" =
      .ok (.mapped (server volumes)))
    (sorts : (server volumes).sort = .ok (serverInOrder volumes)) :
    (compile {} (serverDiagram volumes) .aws "us-east-1" "terraform").outcome =
      .ok (Code.Registry.filesOf writer (projectBlocks (serverInOrder volumes))) :=
  (compile_eq_ok_iff rfl).2 ⟨rfl, server volumes, serverInOrder volumes, processed, sorts,
    mappable_server volumes, rfl⟩

/-- Two volumes. -/
def pair : List String := ["data", "logs"]

theorem process_pair :
    process {} (serverDiagram pair) .aws "us-east-1" = .ok (.mapped (server pair)) :=
  process_server (by decide +kernel) rfl rfl

/-- Two volumes have device names of their own. -/
theorem two_volumes_are_apart :
    ∃ files,
      (compile {} (serverDiagram pair) .aws "us-east-1" "terraform").outcome = .ok files ∧
      ∃ sorted, Code.Registry.filesOf writer (projectBlocks sorted) = files ∧
        ((contextOf sorted).children (serverItself pair) "EBSVolume").length = 2 ∧
        DevicesApart (projectBlocks sorted) := by
  have sorts : (server pair).sort = .ok (serverInOrder pair) := rfl
  have compiles := compile_server process_pair sorts
  obtain ⟨architecture, sorted, mapped, isSorted, made, -, apartIff⟩ :=
    attachments_share_devices_by_place rfl compiles
  obtain rfl := Outcome.mapped.inj (Except.ok.inj (mapped.symm.trans process_pair))
  obtain rfl := Except.ok.inj (isSorted.symm.trans sorts)
  refine ⟨_, compiles, _, made, rfl, apartIff.2 ?_⟩
  intro host member isInstance
  obtain rfl := eq_serverItself member isInstance
  decide

/-- A dozen volumes. -/
def dozen : List String :=
  ["a", "b", "c", "d", "e", "f", "g", "h", "i", "j", "k", "l"]

theorem process_dozen :
    process {} (serverDiagram dozen) .aws "us-east-1" = .ok (.mapped (server dozen)) :=
  process_server (by decide +kernel) rfl rfl

/-- Of twelve volumes two are attached under the same device name. -/
theorem twelve_volumes_are_not_apart :
    (compile {} (serverDiagram dozen) .aws "us-east-1" "terraform").outcome =
      .ok (Code.Registry.filesOf writer (projectBlocks (serverInOrder dozen))) ∧
    ¬DevicesApart (projectBlocks (serverInOrder dozen)) := by
  have sorts : (server dozen).sort = .ok (serverInOrder dozen) := rfl
  have wellLinked := wellLinked_of_sorted process_dozen sorts
  refine ⟨compile_server process_dozen sorts, ?_⟩
  exact not_devicesApart wellLinked (mappable_server dozen) List.mem_cons_self rfl (by decide)

end CloudPlan.Pipeline
