import CloudPlan.Proofs.Code.Generation
import CloudPlan.Proofs.Relation.Acyclic
import CloudPlan.Proofs.Terraform.Mappers

/-!
# Whole projects

When an architecture is generated, its resources are described one by one.  Identifiers
belong to one resource each, so no two blocks of a project share a heading; references
lead to blocks of the project, and always down the tiers.
-/

namespace CloudPlan.Terraform.Aws

open Code

/-- The context in which the resources of an architecture are described. -/
abbrev contextOf (architecture : Architecture) : Context :=
  Registry.context writer architecture

/-- The blocks that a resource of an architecture has. -/
def blocksOf (architecture : Architecture) (resource : Resource) : List Block :=
  Registry.builtIn.blocksOf engine (contextOf architecture) resource

/-- The blocks of the project of an architecture. -/
def projectBlocks (architecture : Architecture) : List Block :=
  Registry.builtIn.projectBlocks engine writer architecture

variable {architecture : Architecture} {resource target : Resource}

/-- Every resource of the architecture can be mapped. -/
def Mappable (architecture : Architecture) : Prop :=
  Registry.builtIn.MapsAll engine (contextOf architecture) architecture.resources

theorem generate_eq_ok_iff
    {files : List GeneratedFile} :
    (Registry.builtIn.generate engine architecture).outcome = .ok files ↔
      Mappable architecture ∧
        Registry.filesOf writer (projectBlocks architecture) = files := by
  have isWriter : Registry.builtIn.writer? engine = some writer := rfl
  rw [Registry.generate_eq_ok_iff, isWriter]
  simp only [Option.some.injEq, exists_eq_left']
  rfl

theorem describes_blocksOf
    (mappable : Mappable architecture)
    (member : resource ∈ architecture.resources) :
    ∃ kind name, kind? resource.typeName = some kind ∧
      (contextOf architecture).localName? resource.id = some name ∧
      Describes (contextOf architecture) resource kind name (blocksOf architecture resource) := by
  obtain ⟨blocks, mapped⟩ := mappable resource member
  rw [blocksOf, Registry.blocksOf_eq mapped]
  exact describes_of_mapResource (named_context writer architecture) member mapped

theorem mem_projectBlocks_iff (block : Block) :
    block ∈ projectBlocks architecture ↔
      block ∈ preamble architecture ∨
        ∃ resource ∈ architecture.resources, block ∈ blocksOf architecture resource := by
  rw [projectBlocks, Registry.projectBlocks, List.mem_append, List.mem_flatMap]
  rfl

/-! ## Headings -/

/-- A heading of a block of a resource tells the identifier of the resource. -/
theorem exists_pattern_of_heading
    (mappable : Mappable architecture)
    (member : resource ∈ architecture.resources)
    {heading : Heading}
    (headingMember : heading ∈ (blocksOf architecture resource).map (·.heading)) :
    ∃ pattern ∈ resourcePatterns, ∃ name,
      (contextOf architecture).localName? resource.id = some name ∧
      heading = pattern.heading name := by
  obtain ⟨kind, name, _, isName, describes⟩ := describes_blocksOf mappable member
  obtain ⟨pattern, isPattern, rfl⟩ := List.mem_map.1 (describes.headings.subset headingMember)
  exact ⟨pattern, patternsOf_subset _ isPattern, name, isName, rfl⟩

/-- Only one resource has blocks of a heading. -/
theorem eq_of_shared_heading
    (distinct : architecture.ids.Nodup)
    (mappable : Mappable architecture)
    (member : resource ∈ architecture.resources)
    (targetMember : target ∈ architecture.resources)
    {heading : Heading}
    (isOwn : heading ∈ (blocksOf architecture resource).map (·.heading))
    (isTargets : heading ∈ (blocksOf architecture target).map (·.heading)) :
    resource = target := by
  obtain ⟨first, isFirst, name, isName, rfl⟩ := exists_pattern_of_heading mappable member isOwn
  obtain ⟨second, isSecond, other, isOther, same⟩ :=
    exists_pattern_of_heading mappable targetMember isTargets
  obtain ⟨-, rfl⟩ := eq_of_heading_eq (resourcePatterns_subset isFirst)
    (resourcePatterns_subset isSecond) same
  exact List.inj_on_of_nodup_map distinct member targetMember
    (id_eq_of_localName?_eq isName isOther)

theorem nodup_headings_blocksOf
    (mappable : Mappable architecture)
    (member : resource ∈ architecture.resources) :
    ((blocksOf architecture resource).map (·.heading)).Nodup := by
  obtain ⟨kind, name, _, _, describes⟩ := describes_blocksOf mappable member
  apply List.Nodup.sublist describes.headings
  apply (nodup_patternsOf resource.typeName).map_on
  intro first isFirst second isSecond same
  have known := List.Subset.trans (patternsOf_subset resource.typeName) resourcePatterns_subset
  exact (eq_of_heading_eq (known isFirst) (known isSecond) same).1

/-- The headings of the blocks that every project has. -/
theorem headings_preamble (architecture : Architecture) :
    (preamble architecture).map (·.heading) =
      [("terraform", []), ("provider", [architecture.provider.terraformName]),
        regionPattern.heading ""] := by
  rw [heading_regionPattern, preamble]
  cases architecture.provider <;> rfl

/-- No resource has a block of a heading that every project has. -/
theorem preamble_disjoint
    (mappable : Mappable architecture)
    (member : resource ∈ architecture.resources) :
    List.Disjoint ((preamble architecture).map (·.heading))
      ((blocksOf architecture resource).map (·.heading)) := by
  intro heading isFirst isOwn
  obtain ⟨pattern, isPattern, name, -, rfl⟩ := exists_pattern_of_heading mappable member isOwn
  have isType := type_mem_of_mem_resourcePatterns pattern isPattern
  rw [headings_preamble] at isFirst
  simp only [List.mem_cons, List.not_mem_nil, or_false] at isFirst isType
  rcases isFirst with isSettings | isProvider | isRegion
  · have typeEq : pattern.type = "terraform" := congrArg Prod.fst isSettings
    simp [typeEq] at isType
  · have typeEq : pattern.type = "provider" := congrArg Prod.fst isProvider
    simp [typeEq] at isType
  · obtain ⟨rfl, -⟩ := eq_of_heading_eq (resourcePatterns_subset isPattern)
      List.mem_cons_self isRegion
    exact regionPattern_not_mem isPattern

/-- No two blocks of a project share a heading. -/
theorem nodup_headings_projectBlocks
    (distinct : architecture.ids.Nodup)
    (mappable : Mappable architecture) :
    ((projectBlocks architecture).map (·.heading)).Nodup := by
  rw [projectBlocks, Registry.projectBlocks, List.map_append, List.map_flatMap]
  refine List.Nodup.append ?_ ?_ ?_
  · show ((preamble architecture).map (·.heading)).Nodup
    rw [headings_preamble, heading_regionPattern]
    simp
  · refine List.nodup_flatMap.2 ⟨fun resource => nodup_headings_blocksOf mappable, ?_⟩
    have pairwise := List.pairwise_map.1 distinct
    refine pairwise.imp_of_mem ?_
    intro resource other member otherMember different heading isOwn isOther
    have same := eq_of_shared_heading distinct mappable member otherMember isOwn isOther
    exact different (congrArg Resource.id same)
  · intro heading isFirst isLater
    obtain ⟨resource, member, isOwn⟩ := List.mem_flatMap.1 isLater
    exact preamble_disjoint mappable member isFirst isOwn

/-- When an architecture is generated each of its resources has exactly one block that declares
it under its kind and identifier, and no two blocks of the project share a heading: neither
resources nor variables nor outputs are declared twice. -/
theorem declares_each_once
    {files : List GeneratedFile}
    (distinct : architecture.ids.Nodup)
    (succeeds : (Registry.builtIn.generate engine architecture).outcome = .ok files) :
    Registry.filesOf writer (projectBlocks architecture) = files ∧
      ((projectBlocks architecture).map (·.heading)).Nodup ∧
      ∀ resource ∈ architecture.resources, ∃ kind name,
        kind? resource.typeName = some kind ∧
        (contextOf architecture).localName? resource.id = some name ∧
        ((blocksOf architecture resource).map (·.heading)).count
          ("resource", [kind, name]) = 1 := by
  obtain ⟨mappable, made⟩ := generate_eq_ok_iff.1 succeeds
  refine ⟨made, nodup_headings_projectBlocks distinct mappable, ?_⟩
  intro resource member
  obtain ⟨kind, name, isKind, isName, describes⟩ := describes_blocksOf mappable member
  refine ⟨kind, name, isKind, isName, ?_⟩
  exact List.count_eq_one_of_mem (nodup_headings_blocksOf mappable member) describes.declared

/-- A NAT gateway that contains its address. -/
def gateway : Resource where
  id := "nat"
  typeName := "NATGateway"
  name := "Main 2"
  parents := ["sub"]
  children := ["ip"]

/-- The address of the gateway. -/
def address : Resource where
  id := "ip"
  typeName := "ElasticIP"
  name := "Main"
  parents := ["nat"]

/-- Resources of one name, and one that is named like the second of them is numbered. -/
def namesakes : Architecture where
  provider := .aws
  region := "eu-west-1"
  resources := [
    { id := "net", typeName := "VPC", name := "Main", children := ["sub"] },
    { id := "sub", typeName := "Subnet", name := "Main", parents := ["net"],
      children := ["nat", "web"] },
    gateway,
    address,
    { id := "web", typeName := "EC2", name := "Main", parents := ["sub"], children := ["disk"] },
    { id := "disk", typeName := "EBSVolume", name := "Main", parents := ["web"] }]

theorem declares_namesakes_once :
    namesakes.ids.Nodup ∧
      ∃ files, (Registry.builtIn.generate engine namesakes).outcome = .ok files ∧
        ((projectBlocks namesakes).map (·.heading)).Nodup ∧
        (projectBlocks namesakes).map (·.heading) =
          [("terraform", []), ("provider", ["aws"]), ("variable", ["region"]),
            ("resource", ["aws_vpc", "main"]), ("output", ["main_id"]),
            ("resource", ["aws_subnet", "main_2"]), ("resource", ["aws_nat_gateway", "main_2_2"]),
            ("resource", ["aws_eip", "main_3"]), ("resource", ["aws_instance", "main_4"]),
            ("variable", ["main_4_ami"]), ("resource", ["aws_ebs_volume", "main_5"]),
            ("resource", ["aws_volume_attachment", "main_5_attachment"])] := by
  have distinct : namesakes.ids.Nodup := by decide
  obtain ⟨files, succeeds⟩ :
      ∃ files, (Registry.builtIn.generate engine namesakes).outcome = .ok files := ⟨_, rfl⟩
  obtain ⟨-, apart, -⟩ := declares_each_once distinct succeeds
  exact ⟨distinct, files, succeeds, apart, by decide +kernel⟩

/-! ## References -/

theorem mem_headings_projectBlocks
    (member : resource ∈ architecture.resources)
    {heading : Heading}
    (isOwn : heading ∈ (blocksOf architecture resource).map (·.heading)) :
    heading ∈ (projectBlocks architecture).map (·.heading) := by
  obtain ⟨block, isBlock, rfl⟩ := List.mem_map.1 isOwn
  exact List.mem_map_of_mem ((mem_projectBlocks_iff block).2 (Or.inr ⟨resource, member, isBlock⟩))

theorem region_mem_headings :
    ("variable", ["region"]) ∈ (projectBlocks architecture).map (·.heading) := by
  have isFirst : regionVariable architecture.region ∈ projectBlocks architecture :=
    (mem_projectBlocks_iff _).2 (Or.inl (by simp [preamble]))
  exact List.mem_map_of_mem isFirst

/-- A reference in a block of a resource leads to a block of a resource that it may refer to. -/
theorem exists_referred
    (mappable : Mappable architecture)
    (member : resource ∈ architecture.resources)
    {block : Block}
    (isBlock : block ∈ blocksOf architecture resource)
    {reference : Reference}
    (mentions : block.Mentions reference)
    {heading : Heading}
    (leads : reference.heading? = some heading) :
    ∃ target ∈ architecture.resources, Referable (contextOf architecture) resource target ∧
      heading ∈ (blocksOf architecture target).map (·.heading) := by
  obtain ⟨_, _, isOwnKind, _, describes⟩ := describes_blocksOf mappable member
  cases describes.grounded block isBlock reference mentions with
  | @ofResource target kind name field referable isKind isName =>
      cases leads
      obtain ⟨targetKind, targetName, isTargetKind, isTargetName, targetDescribes⟩ :=
        describes_blocksOf mappable referable.member
      obtain rfl := Option.some.inj (isKind.symm.trans isTargetKind)
      obtain rfl := Option.some.inj (isName.symm.trans isTargetName)
      exact ⟨target, referable.member, referable, targetDescribes.declared⟩
  | ofVariable declared =>
      cases leads
      exact ⟨resource, member, referable_self member isOwnKind, declared⟩
  | raw => cases leads

/-- The blocks that every project has refer to the variable for the region only. -/
theorem leadsInto_preamble
    {headings : List Heading}
    (regionDeclared : ("variable", ["region"]) ∈ headings) :
    ∀ block ∈ preamble architecture, block.MentionsOnly (Reference.LeadsInto headings) := by
  have settingsOnly : (settings architecture.provider).MentionsOnly
      (Reference.LeadsInto headings) := by
    rw [settings, Block.mentionsOnly_iff]
    refine ⟨by simp [Attributes.MentionsOnly], ?_⟩
    rw [List.forall_mem_singleton, Block.mentionsOnly_iff]
    simp [Attributes.MentionsOnly]
  have providerOnly : (providerBlock architecture.provider).MentionsOnly
      (Reference.LeadsInto headings) := by
    have regionOnly : (AttrValue.ofVariable "region").MentionsOnly
        (Reference.LeadsInto headings) := by
      refine (AttrValue.mentionsOnly_reference_iff _).2 ?_
      rintro heading leads
      cases leads
      exact regionDeclared
    cases architecture.provider with
    | aws => exact Block.mentionsOnly_bare.attr regionOnly
    | azure => exact Block.mentionsOnly_bare.nest Block.mentionsOnly_bare
    | gcp => exact Block.mentionsOnly_bare.attr regionOnly
  have variableOnly : (regionVariable architecture.region).MentionsOnly
      (Reference.LeadsInto headings) := by
    refine Block.mentionsOnly_ofVariable.textAttr.attr ?_ |>.textAttr
    refine (AttrValue.mentionsOnly_reference_iff _).2 ?_
    rintro heading ⟨⟩
  simpa [preamble] using ⟨settingsOnly, providerOnly, variableOnly⟩

/-- The blocks of a resource refer to a block of another resource. -/
def RefersTo (architecture : Architecture) (resource target : Resource) : Prop :=
  resource ∈ architecture.resources ∧ target ∈ architecture.resources ∧ resource ≠ target ∧
    ∃ block ∈ blocksOf architecture resource, ∃ reference, block.Mentions reference ∧
      ∃ heading ∈ (blocksOf architecture target).map (·.heading),
        reference.heading? = some heading

/-- Blocks refer to blocks of other resources down the tiers only. -/
theorem tier_lt_of_refersTo
    (distinct : architecture.ids.Nodup)
    (mappable : Mappable architecture)
    (refers : RefersTo architecture resource target) :
    tier target.typeName < tier resource.typeName := by
  obtain ⟨member, targetMember, different, block, isBlock, reference, mentions, heading,
    isTargets, leads⟩ := refers
  obtain ⟨referred, referredMember, referable, isReferred⟩ :=
    exists_referred mappable member isBlock mentions leads
  obtain rfl := eq_of_shared_heading distinct mappable referredMember targetMember isReferred
    isTargets
  exact referable.within.resolve_left different.symm

/-- When an architecture is generated every reference in a block of the project names a block of
the project, and no resource refers to itself through the blocks of others. -/
theorem references_lead_to_blocks_without_cycles
    {files : List GeneratedFile}
    (distinct : architecture.ids.Nodup)
    (succeeds : (Registry.builtIn.generate engine architecture).outcome = .ok files) :
    Registry.filesOf writer (projectBlocks architecture) = files ∧
      (∀ block ∈ projectBlocks architecture, ∀ reference, block.Mentions reference →
        reference.LeadsInto ((projectBlocks architecture).map (·.heading))) ∧
      Acyclic (RefersTo architecture) := by
  obtain ⟨mappable, made⟩ := generate_eq_ok_iff.1 succeeds
  refine ⟨made, ?_, ?_⟩
  · intro block isBlock
    rcases (mem_projectBlocks_iff block).1 isBlock with isFirst | ⟨resource, member, isOwn⟩
    · exact leadsInto_preamble region_mem_headings block isFirst
    · intro reference mentions heading leads
      obtain ⟨target, targetMember, -, isTargets⟩ :=
        exists_referred mappable member isOwn mentions leads
      exact mem_headings_projectBlocks targetMember isTargets
  · have descends : Acyclic (Function.swap (RefersTo architecture)) :=
      .of_rank (tier ·.typeName) fun _ _ => tier_lt_of_refersTo distinct mappable
    exact descends.swap

/-- The gateway refers to the address that it contains, against the order of provisioning. -/
theorem references_of_namesakes :
    namesakes.ids.Nodup ∧
      ∃ files, (Registry.builtIn.generate engine namesakes).outcome = .ok files ∧
        RefersTo namesakes gateway address ∧
        (∀ block ∈ projectBlocks namesakes, ∀ reference, block.Mentions reference →
          reference.LeadsInto ((projectBlocks namesakes).map (·.heading))) ∧
        Acyclic (RefersTo namesakes) := by
  have distinct : namesakes.ids.Nodup := by decide
  obtain ⟨files, succeeds⟩ :
      ∃ files, (Registry.builtIn.generate engine namesakes).outcome = .ok files := ⟨_, rfl⟩
  have refers : RefersTo namesakes gateway address := by
    refine ⟨by simp [namesakes], by simp [namesakes], by simp [gateway, address], ?_⟩
    exact ⟨_, List.mem_cons_self, _, .attribute List.mem_cons_self (.reference _), _,
      List.mem_cons_self, rfl⟩
  obtain ⟨-, present, acyclic⟩ := references_lead_to_blocks_without_cycles distinct succeeds
  exact ⟨distinct, files, succeeds, refers, present, acyclic⟩

end CloudPlan.Terraform.Aws
