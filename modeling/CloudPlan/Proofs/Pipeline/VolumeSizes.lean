import CloudPlan.Proofs.Architecture.Restoration
import CloudPlan.Proofs.Pipeline.Attachments
import CloudPlan.Proofs.Terraform.VolumeSizes

/-!
# Sizes of added volumes

A volume appears in an instance whose metadata say that it is to be greater than zero, and what
they say is meant to be its size.  The condition takes numbers and texts in any notation, while
the size is only taken from integers and texts of digits.  So an instance that asks for `50.0`
gets a volume, and the volume has the size of those for which none is given.
-/

namespace CloudPlan

namespace Pipeline

open Terraform Terraform.Aws

variable {pipeline : Pipeline} {raw : List UInt8} {provider : Provider} {region name : String}

/-- A volume that was synthesized for a node, and is contained in it. -/
structure IsExtra (node : Node) (volume : Resource) : Prop where
  /-- It was synthesized. -/
  synthesized : volume.synthesized = true
  /-- It is a volume. -/
  typed : volume.typeName = "EBSVolume"
  /-- It is contained in the node. -/
  contained : volume.parents = [node.id]

/-- When a diagram is compiled, an instance may ask for extra volumes by their size.  If the size
is a whole number for expressions, then the extra volumes of the instance have this size exactly
when it is written as an integer, or is the size of volumes for which none is given. -/
theorem extra_volumes_have_size_iff
    (usual : pipeline.code = .builtIn)
    {files : List GeneratedFile}
    (compiles : (pipeline.compile raw provider region name).outcome = .ok files) :
    ∃ graph architecture sorted,
      Graph.ofBytes raw = .ok graph ∧
      pipeline.process raw provider region = .ok (.mapped architecture) ∧
      architecture.sort = .ok sorted ∧
      Code.Registry.filesOf writer (projectBlocks sorted) = files ∧
      ∀ node ∈ graph.nodes, node.typeName = "EC2" →
        ∀ value whole, node.metadata.lookup "extra_volume_gb" = some value →
          Denotes value whole → whole < 2 ^ 53 →
          ∀ volume ∈ sorted.resources, IsExtra node volume →
            ∀ block ∈ blocksOf sorted volume, IsVolume block →
              (block.attributes.lookup "size" = some (.ofNat whole) ↔
                IsPlain value ∨ whole = 20) := by
  obtain ⟨-, architecture, sorted, mapped, sorts, mappable, made⟩ :=
    (compile_eq_ok_iff usual).1 compiles
  have wellLinked := wellLinked_of_sorted mapped sorts
  obtain ⟨graph, read, set, _, _, isMade⟩ := process_eq_mapped_iff.1 mapped
  refine ⟨graph, architecture, sorted, read, mapped, sorts, made, ?_⟩
  intro node isNode isInstance value whole found denotes small volume member isExtra block isBlock
    isVolume
  -- Resources are added and put in order, but the instance keeps its metadata, and what was added
  -- has none.
  have forest := Graph.isForest_of_ofBytes read
  have before := Architecture.wellLinked_of_ofGraph forest isMade
  have sameResources := before.closed.perm_of_sort before.distinct sorts
  obtain ⟨host, isHost, growth⟩ := Architecture.grows_of_ofGraph forest isMade _
    (List.mem_map_of_mem isNode)
  have bare := Architecture.config_eq_nil_of_ofGraph forest isMade (sameResources.subset member)
    isExtra.synthesized
  have isInstanceToo : host.typeName = "EC2" := growth.typeName.trans isInstance
  have isContainer : (contextOf sorted).container? volume = some host := by
    have isFirst : volume.parent? = some node.id := by
      rw [Resource.parent?, isExtra.contained, List.head?_cons]
    rw [Code.Context.container?, isFirst, Option.bind_some,
      Code.Context.resource?_eq_some_iff wellLinked.distinct]
    exact ⟨sameResources.symm.subset isHost, growth.id⟩
  have contains : hostInstance? (contextOf sorted) volume = some host := by
    rw [hostInstance?, isContainer, Option.filter_some, if_pos (beq_iff_eq.2 isInstanceToo)]
  have foundToo : host.config.lookup "extra_volume_gb" = some value := by
    rw [growth.config]
    exact found
  exact size_eq_iff mappable member isExtra.typed bare contains foundToo denotes small isBlock
    isVolume

/-! ## An instance with an extra volume -/

/-- A diagram of an instance that asks for an extra volume. -/
def sizedDiagram (size : String) : List UInt8 :=
  ("\x7b\"nodes\": [\x7b\"id\": \"web\", \"typeName\": \"EC2\", \"metadata\": " ++
    "\x7b\"extra_volume_gb\": " ++ size ++ "\x7d\x7d], \"edges\": []\x7d").toUTF8.data.toList

/-- The instance, with the size for which it asks. -/
def sizedNode (size : Json.Number) : Node :=
  { id := "web", typeName := "EC2", metadata := [("extra_volume_gb", .number size)] }

/-- The graph of the instance. -/
def sizedGraph (size : Json.Number) : Graph where
  nodes := [sizedNode size]
  containment := []
  dependency := []

/-- The volume that is added to the instance. -/
def extraVolume : Resource :=
  Architecture.synthesize Catalog.Aws.instanceRule "web" "web-ebsvolume-1"

/-- The instance with its volume. -/
def sized (size : Json.Number) : Architecture :=
  (Architecture.drawn (sizedGraph size) .aws "us-east-1").addChildren Catalog.Aws.instanceRule
    "web" [extraVolume.id]

/-- The instance as it is provisioned, before its volume. -/
def sizedInOrder (size : Json.Number) : Architecture :=
  { sized size with ordered := true }

theorem isExtra_extraVolume (size : Json.Number) : IsExtra (sizedNode size) extraVolume :=
  ⟨rfl, rfl, rfl⟩

theorem extraVolume_mem (size : Json.Number) : extraVolume ∈ (sizedInOrder size).resources :=
  List.mem_cons_of_mem _ List.mem_cons_self

/-- One volume is missing where the size is positive. -/
theorem missingIds_sized
    {size : Json.Number}
    (positive : Expression.Value.orderFloats size.toFloat 0.0 = some .gt) :
    Architecture.missingIds .builtIn (Architecture.drawn (sizedGraph size) .aws "us-east-1")
      Catalog.Aws.instanceRule "web" = .ok [extraVolume.id] := by
  have one : Catalog.Aws.instanceRule.count [("extra_volume_gb", .number size)] = .ok 1 :=
    Catalog.Aws.count_instanceRule rfl
  have wanted : Architecture.wantedCount .builtIn Catalog.Aws.instanceRule
      [("extra_volume_gb", .number size)] = .ok (some 1) := by
    rw [Architecture.wantedCount, Catalog.Aws.appliesTo_instanceRule rfl positive]
    simp only [one]
    rfl
  have fresh : Architecture.freshIds ["web"] "web" (Architecture.slug Catalog.Aws.instanceRule) 1 =
      [extraVolume.id] := by
    decide +kernel
  rw [Architecture.missingIds]
  change (Architecture.wantedCount _ _ [("extra_volume_gb", _)]).map _ = _
  rw [wanted]
  exact congrArg Except.ok fresh

/-- An instance whose diagram is read as its graph is compiled with its volume. -/
theorem compile_sized
    {text : String}
    {size : Json.Number}
    (read : Graph.ofBytes (sizedDiagram text) = .ok (sizedGraph size))
    (positive : Expression.Value.orderFloats size.toFloat 0.0 = some .gt)
    (sorts : (sized size).sort = .ok (sizedInOrder size)) :
    process {} (sizedDiagram text) .aws "us-east-1" = .ok (.mapped (sized size)) ∧
      (compile {} (sizedDiagram text) .aws "us-east-1" "terraform").outcome =
        .ok (Code.Registry.filesOf writer (projectBlocks (sizedInOrder size))) := by
  have due : Architecture.dueRules .builtIn
      (Architecture.drawn (sizedGraph size) .aws "us-east-1") =
        [("web", Catalog.Aws.instanceRule)] := rfl
  have expanded : Architecture.expand .builtIn
      (Architecture.drawn (sizedGraph size) .aws "us-east-1") =
        { architecture := sized size, added := 1 } := by
    rw [Architecture.expand, due, Architecture.applyRules, missingIds_sized positive]
    rfl
  have processed := process_of_expand read rfl expanded
  have mappable : Mappable (sizedInOrder size) := by
    apply mappable_of_instances
    intro resource member
    rcases List.mem_cons.1 member with rfl | isVolume
    · exact List.mem_cons_self
    · obtain rfl := List.mem_singleton.1 isVolume
      exact List.mem_cons_of_mem _ List.mem_cons_self
  exact ⟨processed, (compile_eq_ok_iff rfl).2 ⟨rfl, _, _, processed, sorts, mappable, rfl⟩⟩

/-- An integer is the size of the volume that it makes appear. -/
theorem integer_is_size :
    ∃ files,
      (compile {} (sizedDiagram "50") .aws "us-east-1" "terraform").outcome = .ok files ∧
      ∃ sorted, Code.Registry.filesOf writer (projectBlocks sorted) = files ∧
        ∃ block ∈ blocksOf sorted extraVolume, IsVolume block ∧
          block.attributes.lookup "size" = some (.ofNat 50) := by
  have sorts : (sized (.integer 50)).sort = .ok (sizedInOrder (.integer 50)) := rfl
  have read : Graph.ofBytes (sizedDiagram "50") = .ok (sizedGraph (.integer 50)) := rfl
  have positive : Expression.Value.orderFloats (Json.Number.integer 50).toFloat 0.0 =
      some .gt := by
    decide +kernel
  have isWhole : Number.IsWhole (Json.Number.integer 50).toFloat 50 := ⟨_, rfl, rfl, rfl⟩
  have plain : IsPlain (.number (.integer 50)) := Int.natCast_nonneg 50
  obtain ⟨processed, compiles⟩ := compile_sized read positive sorts
  obtain ⟨graph, architecture, sorted, isGraph, mapped, isSorted, made, sizes⟩ :=
    extra_volumes_have_size_iff rfl compiles
  obtain rfl := Except.ok.inj (isGraph.symm.trans read)
  obtain rfl := Outcome.mapped.inj (Except.ok.inj (mapped.symm.trans processed))
  obtain rfl := Except.ok.inj (isSorted.symm.trans sorts)
  have hasBlock : ∃ block ∈ blocksOf (sizedInOrder (.integer 50)) extraVolume, IsVolume block :=
    ⟨_, List.mem_cons_self, _, rfl⟩
  obtain ⟨block, isBlock, isVolume⟩ := hasBlock
  have sizeIff := sizes (sizedNode (.integer 50)) List.mem_cons_self rfl _ 50 rfl
    ⟨_, rfl, isWhole⟩ (by decide) extraVolume (extraVolume_mem _) (isExtra_extraVolume _) block
    isBlock isVolume
  exact ⟨_, compiles, _, made, block, isBlock, isVolume, sizeIff.2 (.inl plain)⟩

/-- Fifty, as it is read from `50.0`. -/
def fiftyPointZero : Json.Number :=
  .float (Float.ofScientific 500 true 1)

/-- An instance that asks for a volume of size `50.0` gets one of another size. -/
theorem decimal_is_not_size :
    Graph.ofBytes (sizedDiagram "50.0") = .ok (sizedGraph fiftyPointZero) ∧
    Denotes (.number fiftyPointZero) 50 ∧
    Catalog.Aws.instanceRule.appliesTo (sizedNode fiftyPointZero).metadata = .ok true ∧
    (compile {} (sizedDiagram "50.0") .aws "us-east-1" "terraform").outcome =
      .ok (Code.Registry.filesOf writer (projectBlocks (sizedInOrder fiftyPointZero))) ∧
    extraVolume ∈ (sizedInOrder fiftyPointZero).resources ∧
    IsExtra (sizedNode fiftyPointZero) extraVolume ∧
    ∃ block ∈ blocksOf (sizedInOrder fiftyPointZero) extraVolume, IsVolume block ∧
      block.attributes.lookup "size" = some (.ofNat 20) := by
  have read : Graph.ofBytes (sizedDiagram "50.0") = .ok (sizedGraph fiftyPointZero) := rfl
  have positive : Expression.Value.orderFloats fiftyPointZero.toFloat 0.0 = some .gt := by
    decide +kernel
  have isWhole : Number.IsWhole fiftyPointZero.toFloat 50 := ⟨_, rfl, rfl, rfl⟩
  have compiles := (compile_sized read positive rfl).2
  refine ⟨read, ⟨_, rfl, isWhole⟩, Catalog.Aws.appliesTo_instanceRule rfl positive, compiles,
    extraVolume_mem _, isExtra_extraVolume _, ?_⟩
  exact ⟨_, List.mem_cons_self, ⟨_, rfl⟩, rfl⟩

end Pipeline

end CloudPlan
