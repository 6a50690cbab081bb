import CloudPlan.Proofs.Terraform.Mapping

/-!
# The mappers of the catalogue

Each mapper describes the resources of its type that are ready for it.  So does the one
that the registry has for the type of a resource.
-/

namespace CloudPlan.Terraform.Aws

open Code
open Block (mentionsOnly_resource mentionsOnly_output)
open AttrValue (mentionsOnly_text mentionsOnly_bool mentionsOnly_ofNat)

variable {context : Context} {resource : Resource}

/-! ## What some resources need -/

/-- Inside a private network its id can be referred to; outside nothing can be described. -/
theorem network_cases
    (named : context.Named)
    (member : resource ∈ context.architecture.resources)
    {typeName : String}
    (typed : resource.typeName = typeName)
    (needsNetwork : typeName ∈ ["Subnet", "RouteTable"]) :
    (∃ error, requireAncestor context resource "VPC" = .error error ∧
      ¬Ready context resource) ∨
    ∃ network id, requireAncestor context resource "VPC" = .ok network ∧
      Ready context resource ∧ refer context network "id" = .ok id ∧
      ∀ headings, id.MentionsOnly (Grounded context resource headings) := by
  have limits : ∀ other ∈ ["Subnet", "RouteTable"],
      other ≠ "Lambda" ∧ tier "VPC" < tier other := by decide
  obtain ⟨noFunction, below⟩ := limits typeName needsNetwork
  rw [requireAncestor]
  cases found : context.ancestor? resource "VPC" with
  | none =>
      refine Or.inl ⟨_, rfl, fun ready => ?_⟩
      simpa [found] using ready.network (typed ▸ needsNetwork)
  | some network =>
      have ready : Ready context resource := ⟨by simp [found], by simp [typed, noFunction]⟩
      obtain ⟨id, refers, only⟩ :=
        exists_refer named (referable_ancestor? member typed "VPC" below rfl network found) "id"
      exact Or.inr ⟨network, id, rfl, ready, refers, only⟩

/-- What a function is told is about resources that it may refer to. -/
theorem referable_announced
    (typed : resource.typeName = "Lambda")
    {target : Resource}
    (member : target ∈ context.architecture.resources)
    (reach : Reach context resource target)
    {told : String × String}
    (isTold : announcements.lookup target.typeName = some told) :
    Referable context resource target := by
  have limits : ∀ entry ∈ announcements,
      tier entry.1 < tier "Lambda" ∧ (kind? entry.1).isSome := by decide
  obtain ⟨below, known⟩ := limits _ (mem_of_lookup_eq_some isTold)
  exact referable_of_type typed ⟨member, rfl⟩ below known reach

theorem exists_announce?
    (named : context.Named)
    (typed : resource.typeName = "Lambda")
    {target : Resource}
    (member : target ∈ context.architecture.resources)
    (reach : Reach context resource target) :
    ∃ told, announce? context target = .ok told ∧
      ∀ entry ∈ told, ∀ headings,
        entry.2.MentionsOnly (Grounded context resource headings) := by
  rw [announce?]
  cases isTold : announcements.lookup target.typeName with
  | none => exact ⟨none, rfl, by simp⟩
  | some told =>
      obtain ⟨suffix, field⟩ := told
      obtain ⟨name, isName⟩ := named target member
      obtain ⟨value, refers, only⟩ :=
        exists_refer named (referable_announced typed member reach isTold) field
      simp only [localName_eq isName, refers, ok_bind]
      exact ⟨_, rfl, by simpa using only⟩

theorem exists_environment
    (named : context.Named)
    (member : resource ∈ context.architecture.resources)
    (typed : resource.typeName = "Lambda") :
    ∃ given, environment context resource = .ok given ∧
      ∀ headings, Attributes.MentionsOnly (Grounded context resource headings) given := by
  have announced : ∀ target ∈ resource.targets.filterMap context.resource?,
      ∃ told, announce? context target = .ok told ∧ ∀ entry ∈ told, ∀ headings,
        entry.2.MentionsOnly (Grounded context resource headings) := by
    intro target isTarget
    obtain ⟨id, isListed, isFound⟩ := List.mem_filterMap.1 isTarget
    have isNamed : target.id ∈ resource.targets := by
      rw [Context.id_of_resource? isFound]
      exact isListed
    exact exists_announce? named typed (Context.mem_of_resource? isFound)
      (.before (.single (.dependency member isNamed)))
  obtain ⟨told, isTold, only⟩ := exists_mapM_eq_ok announced
  simp only [environment, isTold, ok_bind]
  refine ⟨_, rfl, fun headings => .ofList ?_⟩
  intro entry member
  obtain ⟨announcement, listed, isEntry⟩ := List.mem_filterMap.1 member
  exact only announcement listed entry isEntry headings

/-- A function has the role that it names or else the first one that it depends on; without
one it cannot be described. -/
theorem role_cases
    (named : context.Named)
    (member : resource ∈ context.architecture.resources)
    (typed : resource.typeName = "Lambda") :
    (∃ error, role context resource = .error error ∧ ¬Ready context resource) ∨
    ∃ value, role context resource = .ok value ∧ Ready context resource ∧
      ∀ headings, value.MentionsOnly (Grounded context resource headings) := by
  rw [role]
  cases given : resource.text? "role_arn" with
  | some arn =>
      have ready : Ready context resource := ⟨by simp [typed], by simp [given]⟩
      exact Or.inr ⟨.text arn, rfl, ready, by simp⟩
  | none =>
      cases roles : context.dependencies resource "IAMRole" with
      | nil =>
          refine Or.inl ⟨_, rfl, fun ready => ?_⟩
          simpa [given, roles] using ready.role typed
      | cons first rest =>
          have ready : Ready context resource := ⟨by simp [typed], by simp [roles]⟩
          have referable : Referable context resource first :=
            referable_dependencies member typed "IAMRole" (by decide) rfl first (by simp [roles])
          obtain ⟨value, refers, only⟩ := exists_refer named referable "arn"
          exact Or.inr ⟨value, refers, ready, only⟩

/-! ## Pieces of blocks -/

theorem mentionsOnly_traffic
    {allowed : Reference → Prop}
    {direction protocol : String}
    {port : Nat} :
    (traffic direction port protocol).MentionsOnly allowed := by
  rw [Block.mentionsOnly_iff]
  simp [traffic, Attributes.MentionsOnly]

/-! ## Networking -/

section Mappers

variable (named : context.Named) (member : resource ∈ context.architecture.resources)

include named member

theorem maps_vpc (typed : resource.typeName = "VPC") :
    Maps context resource (vpc resource context) := by
  obtain ⟨ready, isKind, name, isName⟩ := ready_of_type named member typed (by decide) rfl
  obtain ⟨id, refers, only⟩ := exists_refer named (referable_self member isKind) "id"
  simp only [vpc, localName_eq isName, refers, ok_bind]
  refine maps_two ready isKind isName (by rw [typed]; rfl) (by simp) rfl ?_ ?_
  · exact mentionsOnly_resource |>.textAttr |>.attr mentionsOnly_bool
      |>.attr mentionsOnly_bool |>.tagged
  · exact mentionsOnly_output |>.textAttr |>.attr (only _)

theorem maps_subnet (typed : resource.typeName = "Subnet") :
    Maps context resource (subnet resource context) := by
  have isKind : kind? resource.typeName = some "aws_subnet" := by rw [typed]; rfl
  obtain ⟨name, isName⟩ := named resource member
  rcases network_cases named member typed (by decide) with
    ⟨error, outside, unready⟩ | ⟨network, id, inside, ready, refers, only⟩
  · simp only [subnet, outside, error_bind]
    exact .refused unready
  · simp only [subnet, inside, localName_eq isName, refers, ok_bind]
    refine maps_one ready isKind isName (by simp) ?_
    exact mentionsOnly_resource |>.attr (only _) |>.textAttr |>.attr?_map mentionsOnly_text
      |>.attr?_map mentionsOnly_bool |>.tagged

theorem maps_internetGateway (typed : resource.typeName = "InternetGateway") :
    Maps context resource (internetGateway resource context) := by
  obtain ⟨ready, isKind, name, isName⟩ := ready_of_type named member typed (by decide) rfl
  obtain ⟨network, refers, only⟩ :=
    exists_refer? named (referable_ancestor? member typed "VPC" (by decide) rfl) "id"
  simp only [internetGateway, localName_eq isName, refers, ok_bind]
  refine maps_one ready isKind isName (by simp) ?_
  exact mentionsOnly_resource |>.attr? (only _) |>.tagged

theorem maps_natGateway (typed : resource.typeName = "NATGateway") :
    Maps context resource (natGateway resource context) := by
  obtain ⟨ready, isKind, name, isName⟩ := ready_of_type named member typed (by decide) rfl
  have addressReferable : ∀ found ∈ (context.children resource "ElasticIP").head?,
      Referable context resource found := by
    intro found isFirst
    have isChild := Context.mem_of_mem_children (List.mem_of_mem_head? isFirst)
    exact referable_of_type typed isChild (by decide) rfl (.address typed isFirst)
  obtain ⟨allocation, refersAddress, allocationOnly⟩ := exists_refer? named addressReferable "id"
  obtain ⟨subnet, refersSubnet, subnetOnly⟩ :=
    exists_refer? named (referable_ancestor? member typed "Subnet" (by decide) rfl) "id"
  simp only [natGateway, localName_eq isName, refersAddress, refersSubnet, ok_bind]
  refine maps_one ready isKind isName ?_ ?_
  · split <;> simp
  · split
    · exact mentionsOnly_resource |>.attr? (allocationOnly _) |>.attr? (subnetOnly _)
        |>.textAttr |>.tagged
    · exact mentionsOnly_resource |>.attr? (allocationOnly _) |>.attr? (subnetOnly _) |>.tagged

theorem maps_elasticIp (typed : resource.typeName = "ElasticIP") :
    Maps context resource (elasticIp resource context) := by
  obtain ⟨ready, isKind, name, isName⟩ := ready_of_type named member typed (by decide) rfl
  simp only [elasticIp, localName_eq isName, ok_bind]
  refine maps_one ready isKind isName (by simp) ?_
  exact mentionsOnly_resource |>.textAttr |>.tagged

theorem maps_routeTable (typed : resource.typeName = "RouteTable") :
    Maps context resource (routeTable resource context) := by
  have isKind : kind? resource.typeName = some "aws_route_table" := by rw [typed]; rfl
  obtain ⟨name, isName⟩ := named resource member
  rcases network_cases named member typed (by decide) with
    ⟨error, outside, unready⟩ | ⟨network, id, inside, ready, refers, only⟩
  · simp only [routeTable, outside, error_bind]
    exact .refused unready
  · simp only [routeTable, inside, localName_eq isName, refers, ok_bind]
    refine maps_one ready isKind isName (by simp) ?_
    exact mentionsOnly_resource |>.attr (only _) |>.tagged

theorem maps_loadBalancer (typed : resource.typeName = "LoadBalancer") :
    Maps context resource (loadBalancer resource context) := by
  obtain ⟨ready, isKind, name, isName⟩ := ready_of_type named member typed (by decide) rfl
  have subnetsReferable : ∀ subnet ∈ balancedSubnets context resource,
      Referable context resource subnet := by
    have around : ∀ parent ∈ context.ancestor? resource "Subnet",
        Referable context resource parent :=
      referable_ancestor? member typed "Subnet" (by decide) rfl
    have drawn : ∀ subnet ∈ context.dependencies resource "Subnet",
        Referable context resource subnet :=
      referable_dependencies member typed "Subnet" (by decide) rfl
    grind [balancedSubnets]
  obtain ⟨subnets, refersSubnets, subnetsOnly⟩ := exists_referAll named subnetsReferable "id"
  obtain ⟨groups, refersGroups, groupsOnly⟩ := exists_referAll named
    (referable_dependencies member typed "SecurityGroup" (by decide) rfl) "id"
  simp only [loadBalancer, localName_eq isName, refersSubnets, refersGroups, ok_bind]
  refine maps_one ready isKind isName (by simp) ?_
  exact mentionsOnly_resource |>.textAttr |>.attr mentionsOnly_bool |>.textAttr
    |>.withList (subnetsOnly _) |>.withList (groupsOnly _) |>.tagged

theorem maps_route53Zone (typed : resource.typeName = "Route53Zone") :
    Maps context resource (route53Zone resource context) := by
  obtain ⟨ready, isKind, name, isName⟩ := ready_of_type named member typed (by decide) rfl
  simp only [route53Zone, localName_eq isName, ok_bind]
  refine maps_one ready isKind isName (by simp) ?_
  exact mentionsOnly_resource |>.textAttr |>.tagged

/-! ## Security -/

theorem maps_securityGroup (typed : resource.typeName = "SecurityGroup") :
    Maps context resource (securityGroup resource context) := by
  obtain ⟨ready, isKind, name, isName⟩ := ready_of_type named member typed (by decide) rfl
  obtain ⟨network, refers, only⟩ :=
    exists_refer? named (referable_ancestor? member typed "VPC" (by decide) rfl) "id"
  simp only [securityGroup, localName_eq isName, refers, ok_bind]
  refine maps_one ready isKind isName (by simp) ?_
  exact mentionsOnly_resource |>.textAttr |>.textAttr |>.attr? (only _)
    |>.foldl_nest mentionsOnly_traffic |>.nest mentionsOnly_traffic |>.tagged

theorem maps_iamRole (typed : resource.typeName = "IAMRole") :
    Maps context resource (iamRole resource context) := by
  obtain ⟨ready, isKind, name, isName⟩ := ready_of_type named member typed (by decide) rfl
  obtain ⟨ownName, refers, only⟩ := exists_refer named (referable_self member isKind) "name"
  simp only [iamRole, localName_eq isName, refers, ok_bind]
  split
  · refine maps_two ready isKind isName (by rw [typed]; rfl) (by simp) rfl ?_ ?_
    · exact mentionsOnly_resource |>.textAttr |>.attr mentionsOnly_raw |>.tagged
    · exact mentionsOnly_resource |>.attr (only _) |>.textAttr
  · refine maps_one ready isKind isName (by simp) ?_
    exact mentionsOnly_resource |>.textAttr |>.attr mentionsOnly_raw |>.tagged

/-! ## Computing -/

theorem maps_instanceBlocks (typed : resource.typeName = "EC2") :
    Maps context resource (instanceBlocks resource context) := by
  obtain ⟨ready, isKind, name, isName⟩ := ready_of_type named member typed (by decide) rfl
  obtain ⟨groups, refersGroups, groupsOnly⟩ := exists_referAll named
    (referable_dependencies member typed "SecurityGroup" (by decide) rfl) "id"
  obtain ⟨subnet, refersSubnet, subnetOnly⟩ :=
    exists_refer? named (referable_ancestor? member typed "Subnet" (by decide) rfl) "id"
  simp only [instanceBlocks, localName_eq isName, refersGroups, refersSubnet, ok_bind]
  cases image : resource.text? "ami" with
  | some given =>
      refine maps_one ready isKind isName (by simp) ?_
      exact mentionsOnly_resource |>.attr mentionsOnly_text |>.textAttr |>.attr? (subnetOnly _)
        |>.withList (groupsOnly _) |>.tagged
  | none =>
      refine maps_two ready isKind isName (by rw [typed]; rfl) (by simp) rfl ?_ ?_
      · exact mentionsOnly_resource
          |>.attr (mentionsOnly_ofVariable (by simp [HeadingPattern.heading])) |>.textAttr
          |>.attr? (subnetOnly _) |>.withList (groupsOnly _) |>.tagged
      · exact mentionsOnly_textVariable

theorem maps_lambdaFunction (typed : resource.typeName = "Lambda") :
    Maps context resource (lambdaFunction resource context) := by
  have isKind : kind? resource.typeName = some "aws_lambda_function" := by rw [typed]; rfl
  obtain ⟨name, isName⟩ := named resource member
  rcases role_cases named member typed with
    ⟨error, without, unready⟩ | ⟨role, isRole, ready, roleOnly⟩
  · simp only [lambdaFunction, localName_eq isName, without, ok_bind, error_bind]
    exact .refused unready
  · obtain ⟨given, isGiven, givenOnly⟩ := exists_environment named member typed
    simp only [lambdaFunction, localName_eq isName, isRole, isGiven, ok_bind]
    split
    · refine maps_one ready isKind isName (by simp) ?_
      exact mentionsOnly_resource |>.textAttr |>.attr (roleOnly _) |>.textAttr |>.textAttr
        |>.textAttr |>.tagged
    · have environmentOnly : Block.MentionsOnly
          (Grounded context resource [("resource", ["aws_lambda_function", name])])
          { type := "environment", attributes := [("variables", .map given)] } := by
        rw [Block.mentionsOnly_iff]
        simpa [Attributes.MentionsOnly] using givenOnly _
      refine maps_one ready isKind isName (by simp) ?_
      exact mentionsOnly_resource |>.textAttr |>.attr (roleOnly _) |>.textAttr |>.textAttr
        |>.textAttr |>.tagged |>.nest environmentOnly

/-! ## Storage and databases -/

theorem maps_ebsVolume (typed : resource.typeName = "EBSVolume") :
    Maps context resource (ebsVolume resource context) := by
  obtain ⟨ready, isKind, name, isName⟩ := ready_of_type named member typed (by decide) rfl
  obtain ⟨id, refers, only⟩ := exists_refer named (referable_self member isKind) "id"
  cases isHost : hostInstance? context resource with
  | none =>
      simp only [ebsVolume, localName_eq isName, isHost, ok_bind]
      refine maps_one ready isKind isName (by simp) ?_
      exact mentionsOnly_resource |>.attr mentionsOnly_text |>.attr mentionsOnly_ofNat
        |>.textAttr |>.tagged
  | some host =>
      obtain ⟨isContainer, ofType⟩ := Option.filter_eq_some_iff.1 isHost
      have referable : Referable context resource host :=
        referable_of_type typed ⟨Context.mem_of_container? isContainer, beq_iff_eq.1 ofType⟩
          (by decide) rfl (.before (.single (Context.precedes_of_container? member isContainer)))
      obtain ⟨zone, refersZone, zoneOnly⟩ := exists_refer named referable "availability_zone"
      obtain ⟨hostId, refersHost, hostOnly⟩ := exists_refer named referable "id"
      simp only [ebsVolume, localName_eq isName, isHost, attachment, refers, refersZone,
        refersHost, ok_bind]
      refine maps_two ready isKind isName (by rw [typed]; rfl) (by simp) rfl ?_ ?_
      · exact mentionsOnly_resource |>.attr (zoneOnly _) |>.attr mentionsOnly_ofNat
          |>.textAttr |>.tagged
      · exact mentionsOnly_resource |>.textAttr |>.attr (only _) |>.attr (hostOnly _)

theorem maps_s3Bucket (typed : resource.typeName = "S3") :
    Maps context resource (s3Bucket resource context) := by
  obtain ⟨ready, isKind, name, isName⟩ := ready_of_type named member typed (by decide) rfl
  obtain ⟨arn, refers, only⟩ := exists_refer named (referable_self member isKind) "arn"
  simp only [s3Bucket, localName_eq isName, refers, ok_bind]
  refine maps_two ready isKind isName (by rw [typed]; rfl) (by simp) rfl ?_ ?_
  · exact mentionsOnly_resource |>.textAttr |>.tagged
  · exact mentionsOnly_output |>.textAttr |>.attr (only _)

theorem maps_dbInstance (typed : resource.typeName = "RDS") :
    Maps context resource (dbInstance resource context) := by
  obtain ⟨ready, isKind, name, isName⟩ := ready_of_type named member typed (by decide) rfl
  obtain ⟨groups, refers, groupsOnly⟩ := exists_referAll named
    (referable_dependencies member typed "SecurityGroup" (by decide) rfl) "id"
  simp only [dbInstance, localName_eq isName, refers, ok_bind]
  refine maps_two ready isKind isName (by rw [typed]; rfl) (by simp) rfl ?_ ?_
  · exact mentionsOnly_resource |>.textAttr |>.textAttr |>.attr?_map mentionsOnly_text
      |>.textAttr |>.attr mentionsOnly_ofNat |>.textAttr
      |>.attr (mentionsOnly_ofVariable (by simp [HeadingPattern.heading]))
      |>.attr mentionsOnly_bool |>.withList (groupsOnly _) |>.tagged
  · exact mentionsOnly_textVariable.attr mentionsOnly_bool

theorem maps_dynamodbTable (typed : resource.typeName = "DynamoDB") :
    Maps context resource (dynamodbTable resource context) := by
  obtain ⟨ready, isKind, name, isName⟩ := ready_of_type named member typed (by decide) rfl
  have keyOnly (key : String) : Block.MentionsOnly
      (Grounded context resource [("resource", ["aws_dynamodb_table", name])])
      { type := "attribute", attributes := [("name", .text key), ("type", .text "S")] } := by
    rw [Block.mentionsOnly_iff]
    simp [Attributes.MentionsOnly]
  simp only [dynamodbTable, localName_eq isName, ok_bind]
  refine maps_one ready isKind isName (by simp) ?_
  exact mentionsOnly_resource |>.textAttr |>.textAttr |>.textAttr |>.tagged |>.nest (keyOnly _)

/-! ## Messaging -/

theorem maps_sqsQueue (typed : resource.typeName = "SQS") :
    Maps context resource (sqsQueue resource context) := by
  obtain ⟨ready, isKind, name, isName⟩ := ready_of_type named member typed (by decide) rfl
  simp only [sqsQueue, localName_eq isName, ok_bind]
  refine maps_one ready isKind isName ?_ ?_
  · split <;> simp
  · split
    · exact mentionsOnly_resource |>.textAttr |>.attr mentionsOnly_bool |>.tagged
    · exact mentionsOnly_resource |>.textAttr |>.tagged

theorem maps_snsTopic (typed : resource.typeName = "SNS") :
    Maps context resource (snsTopic resource context) := by
  obtain ⟨ready, isKind, name, isName⟩ := ready_of_type named member typed (by decide) rfl
  simp only [snsTopic, localName_eq isName, ok_bind]
  refine maps_one ready isKind isName (by simp) ?_
  exact mentionsOnly_resource |>.textAttr |>.tagged

/-! ## The catalogue -/

/-- Every mapper of the table describes the resources of its type. -/
theorem maps_of_mem_mappers :
    ∀ entry ∈ mappers, resource.typeName = entry.1 →
      Maps context resource (entry.2 resource context) := by
  simp only [mappers, List.forall_mem_cons]
  exact ⟨maps_vpc named member, maps_subnet named member, maps_internetGateway named member,
    maps_natGateway named member, maps_elasticIp named member, maps_routeTable named member,
    maps_loadBalancer named member, maps_route53Zone named member,
    maps_securityGroup named member, maps_iamRole named member,
    maps_instanceBlocks named member, maps_lambdaFunction named member,
    maps_ebsVolume named member, maps_s3Bucket named member, maps_dbInstance named member,
    maps_dynamodbTable named member, maps_sqsQueue named member, maps_snsTopic named member,
    List.forall_mem_nil _⟩

end Mappers

/-! ## The registry -/

/-- The registry has the mappers of the table. -/
theorem mapper?_builtIn (typeName : String) :
    Registry.builtIn.mapper? engine typeName = (mappers.lookup typeName).map (·.mapper) := by
  have listed (table : List (String × Describer)) :
      ((table.map fun found => MapperEntry.mk engine found.1 found.2.mapper).find?
        (·.isFor engine typeName)).map (·.mapper) = (table.lookup typeName).map (·.mapper) := by
    induction table with
    | nil => rfl
    | cons entry rest inductionHypothesis =>
        obtain ⟨other, describer⟩ := entry
        rw [List.map_cons, List.find?_cons, List.lookup_cons]
        by_cases same : typeName = other
        · simp [MapperEntry.isFor, same]
        · have different : ¬other = typeName := Ne.symm same
          simpa only [MapperEntry.isFor, beq_self_eq_true, Bool.true_and,
            beq_eq_false_iff_ne.2 same, beq_eq_false_iff_ne.2 different] using inductionHypothesis
  exact listed mappers

/-- A resource of a type in the table is described if it is ready and refused otherwise. -/
theorem maps_mapResource
    (named : context.Named)
    (member : resource ∈ context.architecture.resources)
    {describer : Describer}
    (known : mappers.lookup resource.typeName = some describer) :
    ∃ outcome, Maps context resource outcome ∧
      Registry.builtIn.mapResource engine context resource = outcome.mapError .mapping := by
  refine ⟨describer resource context, ?_, ?_⟩
  · exact maps_of_mem_mappers named member _ (mem_of_lookup_eq_some known) rfl
  · rw [Registry.mapResource, mapper?_builtIn, known]
    rfl

/-- What the registry makes of a resource describes it. -/
theorem describes_of_mapResource
    (named : context.Named)
    (member : resource ∈ context.architecture.resources)
    {blocks : List Block}
    (mapped : Registry.builtIn.mapResource engine context resource = .ok blocks) :
    ∃ kind name, kind? resource.typeName = some kind ∧
      context.localName? resource.id = some name ∧
      Describes context resource kind name blocks := by
  cases known : mappers.lookup resource.typeName with
  | none =>
      rw [Registry.mapResource, mapper?_builtIn, known] at mapped
      contradiction
  | some mapper =>
      obtain ⟨outcome, maps, made⟩ := maps_mapResource named member known
      rw [made] at mapped
      cases maps with
      | refused => contradiction
      | done ready isKind isName describes =>
          cases mapped
          exact ⟨_, _, isKind, isName, describes⟩

/-- Of the types in the table exactly the resources that are ready can be mapped. -/
theorem mapResource_succeeds_iff
    (named : context.Named)
    (member : resource ∈ context.architecture.resources)
    (known : (mappers.lookup resource.typeName).isSome) :
    (∃ blocks, Registry.builtIn.mapResource engine context resource = .ok blocks) ↔
      Ready context resource := by
  obtain ⟨mapper, isMapper⟩ := Option.isSome_iff_exists.1 known
  obtain ⟨outcome, maps, made⟩ := maps_mapResource named member isMapper
  rw [made]
  cases maps with
  | done ready => exact iff_of_true ⟨_, rfl⟩ ready
  | refused unready =>
      refine iff_of_false ?_ unready
      rintro ⟨blocks, impossible⟩
      contradiction

end CloudPlan.Terraform.Aws
