import CloudPlan.Proofs.Architecture.Session
import CloudPlan.Proofs.Code.Routing
import CloudPlan.Proofs.Terraform.Project

/-!
# References and the order of provisioning

What contains a resource and what it depends on is provisioned before it, and the file of
resources keeps that order.  So the references in this file point back, to blocks that stand
earlier in it.  Only a gateway refers to something that it contains: its address, which is
provisioned after it.
-/

namespace CloudPlan

open Relation (TransGen)

namespace Architecture

variable {architecture : Architecture}

/-- In an order of provisioning also that stands before a resource which precedes it in several
steps. -/
theorem InOrder.pair_sublist
    (inOrder : architecture.InOrder)
    (distinct : architecture.ids.Nodup)
    {before after : String}
    (precedes : TransGen architecture.Precedes before after) :
    [before, after].Sublist architecture.ids := by
  induction precedes with
  | single step => exact inOrder _ _ step
  | tail _ step inductionHypothesis =>
      exact pair_sublist_trans distinct inductionHypothesis (inOrder _ _ step)

end Architecture

namespace Terraform.Aws

open Code

variable {architecture : Architecture} {resource target : Resource} {block : Block}

/-! ## The file of resources -/

/-- The blocks in the file of resources. -/
def mainBlocks (architecture : Architecture) : List Block :=
  writer.blocksIn (projectBlocks architecture) "main.tf"

theorem mem_mainBlocks_iff :
    block ∈ mainBlocks architecture ↔
      block ∈ projectBlocks architecture ∧ fileFor block = "main.tf" := by
  rw [mainBlocks, Writer.blocksIn, List.mem_filter, beq_iff_eq]
  rfl

theorem fileFor_of_heading
    {kind name : String}
    (isHeading : block.heading = ("resource", [kind, name])) :
    fileFor block = "main.tf" := by
  have isType : block.type = "resource" := congrArg Prod.fst isHeading
  rw [fileFor, isType]
  rfl

theorem mem_mainBlocks_of_heading
    (member : resource ∈ architecture.resources)
    (isBlock : block ∈ blocksOf architecture resource)
    {kind name : String}
    (isHeading : block.heading = ("resource", [kind, name])) :
    block ∈ mainBlocks architecture := by
  rw [mem_mainBlocks_iff, mem_projectBlocks_iff]
  exact ⟨Or.inr ⟨resource, member, isBlock⟩, fileFor_of_heading isHeading⟩

/-- The blocks that every project has are in other files. -/
theorem exists_resource_of_mem_mainBlocks
    (isBlock : block ∈ mainBlocks architecture) :
    ∃ resource ∈ architecture.resources, block ∈ blocksOf architecture resource := by
  obtain ⟨inProject, inMain⟩ := mem_mainBlocks_iff.1 isBlock
  refine ((mem_projectBlocks_iff block).1 inProject).resolve_left fun isFirst => ?_
  have isHeading : block.heading ∈ (preamble architecture).map (·.heading) :=
    List.mem_map_of_mem isFirst
  have isType : block.type ∈ ["terraform", "provider", "variable"] := by
    have types := List.mem_map_of_mem (f := Prod.fst) isHeading
    rw [headings_preamble, heading_regionPattern] at types
    exact types
  have elsewhere : ∀ type ∈ ["terraform", "provider", "variable"],
      fileFor { type } ≠ "main.tf" := by decide
  exact elsewhere block.type isType inMain

/-- The file holds what the writer makes of its blocks. -/
theorem content_of_main
    {files : List GeneratedFile}
    (made : Registry.filesOf writer (projectBlocks architecture) = files) :
    ∀ file ∈ files, file.path = "main.tf" →
      file.content = writer.render (mainBlocks architecture) := by
  subst made
  intro file isFile isMain
  obtain ⟨routed, isRouted, rfl⟩ := List.mem_map.1 isFile
  have kept := (writer.distributes_route (projectBlocks architecture)).kept routed isRouted
  have isPath : routed.1 = "main.tf" := isMain
  rw [isPath] at kept
  exact congrArg writer.render kept

/-- Blocks stand in the file as their resources do. -/
theorem pair_sublist_mainBlocks
    (distinct : architecture.ids.Nodup)
    (targetMember : target ∈ architecture.resources)
    (member : resource ∈ architecture.resources)
    (inOrder : [target.id, resource.id].Sublist architecture.ids)
    {earlier : Block}
    (isEarlier : earlier ∈ blocksOf architecture target)
    (isBlock : block ∈ blocksOf architecture resource)
    (earlierInMain : earlier ∈ mainBlocks architecture)
    (inMain : block ∈ mainBlocks architecture) :
    [earlier, block].Sublist (mainBlocks architecture) := by
  have resources : [target, resource].Sublist architecture.resources := by
    obtain ⟨pair, isPair, sameIds⟩ := List.sublist_map_iff.1 inOrder
    obtain ⟨first, others, rfl, sameFirst, more⟩ := List.map_eq_cons_iff.1 sameIds.symm
    obtain ⟨second, none, rfl, sameSecond, ended⟩ := List.map_eq_cons_iff.1 more
    obtain rfl := List.map_eq_nil_iff.1 ended
    have byId := List.inj_on_of_nodup_map distinct
    rw [← byId (isPair.subset (by simp)) targetMember sameFirst,
      ← byId (isPair.subset (by simp)) member sameSecond]
    exact isPair
  have own : [earlier, block].Sublist ([target, resource].flatMap (blocksOf architecture)) := by
    rw [List.flatMap_cons, List.flatMap_singleton]
    exact (List.singleton_sublist.2 isEarlier).append (List.singleton_sublist.2 isBlock)
  have inProject : [earlier, block].Sublist (projectBlocks architecture) :=
    own.trans ((resources.flatMap _).trans (List.sublist_append_right _ _))
  have bothInMain : ∀ one ∈ [earlier, block], (writer.fileFor one == "main.tf") = true := by
    have earlierFile : writer.fileFor earlier = "main.tf" :=
      (mem_mainBlocks_iff.1 earlierInMain).2
    have blockFile : writer.fileFor block = "main.tf" := (mem_mainBlocks_iff.1 inMain).2
    simp [earlierFile, blockFile]
  have inFile := inProject.filter (writer.fileFor · == "main.tf")
  rw [List.filter_eq_self.2 bothInMain] at inFile
  exact inFile

/-! ## Where references point -/

/-- A heading is that of a block of the same resource, or of one that stands earlier in the
file. -/
def PointsBack (architecture : Architecture) (resource : Resource) (block : Block)
    (heading : Heading) : Prop :=
  heading ∈ (blocksOf architecture resource).map (·.heading) ∨
    ∃ earlier, earlier.heading = heading ∧ [earlier, block].Sublist (mainBlocks architecture)

/-- A heading is that of the block of an address, which stands later in the file than the one
of the gateway that contains the address. -/
def PointsToAddress (architecture : Architecture) (resource : Resource) (block : Block)
    (heading : Heading) : Prop :=
  resource.typeName = "NATGateway" ∧
    ∃ address, ((contextOf architecture).children resource "ElasticIP").head? = some address ∧
      ∃ later ∈ blocksOf architecture address, later.heading = heading ∧
        [block, later].Sublist (mainBlocks architecture)

/-- Every reference to a resource in the file points back. -/
def AllPointBack (architecture : Architecture) : Prop :=
  ∀ block ∈ mainBlocks architecture, ∀ resource ∈ architecture.resources,
    block ∈ blocksOf architecture resource →
    ∀ kind name field, block.Mentions (.ofResource kind name field) →
      PointsBack architecture resource block ("resource", [kind, name])

theorem pointsBack_or_pointsToAddress
    (distinct : architecture.ids.Nodup)
    (inOrder : architecture.InOrder)
    (mappable : Mappable architecture)
    (member : resource ∈ architecture.resources)
    (isBlock : block ∈ blocksOf architecture resource)
    (inMain : block ∈ mainBlocks architecture)
    {kind name field : String}
    (mentions : block.Mentions (.ofResource kind name field)) :
    PointsBack architecture resource block ("resource", [kind, name]) ∨
      PointsToAddress architecture resource block ("resource", [kind, name]) := by
  obtain ⟨target, targetMember, referable, isTargets⟩ :=
    exists_referred mappable member isBlock mentions rfl
  obtain ⟨referred, isReferred, isHeading⟩ := List.mem_map.1 isTargets
  have referredInMain := mem_mainBlocks_of_heading targetMember isReferred isHeading
  cases referable.reach with
  | own same =>
      rw [same] at isTargets
      exact Or.inl (Or.inl isTargets)
  | before precedes =>
      have stands := pair_sublist_mainBlocks distinct targetMember member
        (inOrder.pair_sublist distinct precedes) isReferred isBlock referredInMain inMain
      exact Or.inl (Or.inr ⟨referred, isHeading, stands⟩)
  | address isGateway isAddress =>
      have isChild := List.mem_of_mem_head? isAddress
      have follows := inOrder _ _ (Context.precedes_of_mem_children member isChild)
      have stands := pair_sublist_mainBlocks distinct member targetMember follows isBlock
        isReferred inMain referredInMain
      exact Or.inr ⟨isGateway, target, isAddress, referred, isReferred, isHeading, stands⟩

/-! ## Gateways and their addresses -/

/-- The block of a gateway refers to the first address that the gateway contains. -/
theorem mentions_address
    {context : Context}
    {address : Resource}
    (isAddress : (context.children resource "ElasticIP").head? = some address)
    {kind name : String}
    (isKind : kind? address.typeName = some kind)
    (isName : context.localName? address.id = some name)
    {blocks : List Block}
    (mapped : natGateway resource context = .ok blocks) :
    ∃ block ∈ blocks, ∃ own, block.heading = ("resource", ["aws_nat_gateway", own]) ∧
      block.Mentions (.ofResource kind name "id") := by
  have refers : refer? context (some address) "id" = .ok (some (.ofResource kind name "id")) := by
    rw [refer?, refer, isKind, localName_eq isName]
    rfl
  simp only [natGateway, isAddress, refers, ok_bind] at mapped
  obtain ⟨own, -, mapped⟩ := bind_eq_ok_iff.1 mapped
  obtain ⟨subnet, -, mapped⟩ := bind_eq_ok_iff.1 mapped
  cases mapped
  refine ⟨_, List.mem_singleton_self _, own, by simp, ?_⟩
  suffices isEntry :
      ("allocation_id", AttrValue.ofResource kind name "id") ∈ Block.attributes _ from
    .attribute isEntry (.reference _)
  -- Neither the tags nor the subnet, if there is one, take the place of the address.
  apply Attributes.mem_set_of_ne (by simp)
  cases subnet with
  | none => exact Attributes.mem_set_self _ _ _
  | some given =>
      apply Attributes.mem_set_of_ne (by simp)
      exact Attributes.mem_set_self _ _ _

/-- A reference to an address that a gateway contains does not point back. -/
theorem not_allPointBack
    (distinct : architecture.ids.Nodup)
    (inOrder : architecture.InOrder)
    (mappable : Mappable architecture)
    (member : resource ∈ architecture.resources)
    (isGateway : resource.typeName = "NATGateway")
    {address : Resource}
    (isAddress : ((contextOf architecture).children resource "ElasticIP").head? = some address) :
    ¬AllPointBack architecture := by
  intro allBack
  have isChild := List.mem_of_mem_head? isAddress
  obtain ⟨addressMember, ofType⟩ := Context.mem_of_mem_children isChild
  obtain ⟨kind, name, isKind, isName, describes⟩ := describes_blocksOf mappable addressMember
  obtain ⟨blocks, mapped⟩ := mappable resource member
  have isBlocks : blocksOf architecture resource = blocks := Registry.blocksOf_eq mapped
  have isMade : natGateway resource (contextOf architecture) = .ok blocks := by
    rw [Registry.mapResource, isGateway] at mapped
    exact (mapError_eq_ok_iff.1 mapped)
  obtain ⟨block, isBlock, own, isHeading, mentions⟩ :=
    mentions_address isAddress isKind isName isMade
  rw [← isBlocks] at isBlock
  have inMain := mem_mainBlocks_of_heading member isBlock isHeading
  obtain ⟨later, isLater, laterHeading⟩ := List.mem_map.1 describes.declared
  have laterInMain := mem_mainBlocks_of_heading addressMember isLater laterHeading
  have follows := inOrder _ _ (Context.precedes_of_mem_children member isChild)
  have stands := pair_sublist_mainBlocks distinct member addressMember follows isBlock isLater
    inMain laterInMain
  rcases allBack block inMain resource member isBlock kind name "id" mentions with
    isOwn | ⟨earlier, earlierHeading, back⟩
  · have same := eq_of_shared_heading distinct mappable member addressMember isOwn
      describes.declared
    rw [same, ofType] at isGateway
    contradiction
  · have apart : ((mainBlocks architecture).map (·.heading)).Nodup :=
      (nodup_headings_projectBlocks distinct mappable).sublist (List.filter_sublist.map _)
    have forth := stands.map Block.heading
    have behind := back.map Block.heading
    simp only [List.map_cons, List.map_nil, laterHeading, earlierHeading] at forth behind
    exact not_pair_sublist_of_pair_sublist apart forth behind

/-- References point back exactly when no gateway contains an address. -/
theorem allPointBack_iff
    (distinct : architecture.ids.Nodup)
    (inOrder : architecture.InOrder)
    (mappable : Mappable architecture) :
    AllPointBack architecture ↔
      ∀ resource ∈ architecture.resources, resource.typeName = "NATGateway" →
        (contextOf architecture).children resource "ElasticIP" = [] := by
  constructor
  · intro allBack resource member isGateway
    rw [← List.head?_eq_none_iff, Option.eq_none_iff_forall_ne_some]
    intro address isAddress
    exact not_allPointBack distinct inOrder mappable member isGateway isAddress allBack
  · intro without block inMain resource member isBlock kind name field mentions
    refine (pointsBack_or_pointsToAddress distinct inOrder mappable member isBlock inMain
      mentions).resolve_right ?_
    rintro ⟨isGateway, address, isAddress, -⟩
    rw [without resource member isGateway] at isAddress
    contradiction

/-- When a sorted architecture is generated, every reference to a resource in the file of
resources names a block of the same resource or one that stands earlier in the file, except those
of gateways to the addresses that they contain, whose blocks stand later.  All references point
back exactly when no gateway contains an address. -/
theorem references_point_back_but_to_addresses
    {unsorted : Architecture}
    {files : List GeneratedFile}
    (distinct : unsorted.ids.Nodup)
    (sorts : unsorted.sort = .ok architecture)
    (succeeds : (Registry.builtIn.generate engine architecture).outcome = .ok files) :
    (∀ file ∈ files, file.path = "main.tf" →
      file.content = writer.render (mainBlocks architecture)) ∧
      (∀ block ∈ mainBlocks architecture, ∃ resource ∈ architecture.resources,
        block ∈ blocksOf architecture resource ∧
        ∀ kind name field, block.Mentions (.ofResource kind name field) →
          PointsBack architecture resource block ("resource", [kind, name]) ∨
            PointsToAddress architecture resource block ("resource", [kind, name])) ∧
      (AllPointBack architecture ↔
        ∀ resource ∈ architecture.resources, resource.typeName = "NATGateway" →
          (contextOf architecture).children resource "ElasticIP" = []) := by
  obtain ⟨mappable, made⟩ := generate_eq_ok_iff.1 succeeds
  have closed := Architecture.closed_of_sort sorts
  have resources := closed.perm_of_sort distinct sorts
  have sortedDistinct : architecture.ids.Nodup := (resources.map _).nodup_iff.2 distinct
  have inOrder := closed.inOrder_of_sort distinct sorts
  refine ⟨content_of_main made, ?_, allPointBack_iff sortedDistinct inOrder mappable⟩
  intro block inMain
  obtain ⟨resource, member, isBlock⟩ := exists_resource_of_mem_mainBlocks inMain
  refine ⟨resource, member, isBlock, ?_⟩
  intro kind name field mentions
  exact pointsBack_or_pointsToAddress sortedDistinct inOrder mappable member isBlock inMain
    mentions

/-- A subnet that is drawn before the network that it is in. -/
def subnetFirst : Architecture where
  provider := .aws
  region := "eu-west-1"
  resources := [
    { id := "sub", typeName := "Subnet", name := "sub", parents := ["net"] },
    { id := "net", typeName := "VPC", name := "net", children := ["sub"] }]

theorem references_of_subnet_point_back :
    subnetFirst.ids.Nodup ∧
      ∃ sorted files, subnetFirst.sort = .ok sorted ∧
        (Registry.builtIn.generate engine sorted).outcome = .ok files ∧
        (mainBlocks sorted).map (·.heading) =
          [("resource", ["aws_vpc", "net"]), ("resource", ["aws_subnet", "sub"])] ∧
        (∃ block ∈ mainBlocks sorted, block.Mentions (.ofResource "aws_vpc" "net" "id")) ∧
        AllPointBack sorted := by
  have distinct : subnetFirst.ids.Nodup := by decide
  obtain ⟨sorted, sorts, isSorted⟩ : ∃ sorted, subnetFirst.sort = .ok sorted ∧
      sorted = { subnetFirst with
        resources := subnetFirst.resources.reverse, ordered := true } := ⟨_, rfl, rfl⟩
  obtain ⟨files, succeeds⟩ :
      ∃ files, (Registry.builtIn.generate engine sorted).outcome = .ok files := by
    subst isSorted
    exact ⟨_, rfl⟩
  obtain ⟨-, -, allBackIff⟩ := references_point_back_but_to_addresses distinct sorts succeeds
  have noGateway : ∀ resource ∈ sorted.resources, resource.typeName = "NATGateway" →
      (contextOf sorted).children resource "ElasticIP" = [] := by
    subst isSorted
    simp [subnetFirst]
  refine ⟨distinct, sorted, files, sorts, succeeds, ?_, ?_, allBackIff.2 noGateway⟩
  · subst isSorted
    decide +kernel
  · subst isSorted
    exact ⟨_, .tail _ (.head _), .attribute (.head _) (.reference _)⟩

/-- A gateway and the address that it contains. -/
def gatewayWithAddress : Architecture where
  provider := .aws
  region := "us-east-1"
  resources := [{ gateway with parents := [] }, address]

/-- The reference of a gateway to its address does not point back. -/
theorem address_follows_gateway :
    gatewayWithAddress.ids.Nodup ∧
      ∃ sorted files, gatewayWithAddress.sort = .ok sorted ∧
        (Registry.builtIn.generate engine sorted).outcome = .ok files ∧
        ¬AllPointBack sorted := by
  have distinct : gatewayWithAddress.ids.Nodup := by decide
  obtain ⟨sorted, sorts, isSorted⟩ : ∃ sorted, gatewayWithAddress.sort = .ok sorted ∧
      sorted = { gatewayWithAddress with ordered := true } := ⟨_, rfl, rfl⟩
  obtain ⟨files, succeeds⟩ :
      ∃ files, (Registry.builtIn.generate engine sorted).outcome = .ok files := by
    subst isSorted
    exact ⟨_, rfl⟩
  have sortedDistinct : sorted.ids.Nodup := by
    subst isSorted
    decide
  have inOrder := (Architecture.closed_of_sort sorts).inOrder_of_sort distinct sorts
  have isAddress : ((contextOf sorted).children { gateway with parents := [] }
      "ElasticIP").head? = some address := by
    subst isSorted
    rfl
  have member : { gateway with parents := [] } ∈ sorted.resources := by
    subst isSorted
    exact List.mem_cons_self
  exact ⟨distinct, sorted, files, sorts, succeeds, not_allPointBack sortedDistinct inOrder
    (generate_eq_ok_iff.1 succeeds).1 member rfl isAddress⟩

end Terraform.Aws

end CloudPlan
