import CloudPlan.Proofs.Code.Names
import CloudPlan.Proofs.Code.References
import CloudPlan.Proofs.Code.Surroundings
import CloudPlan.Proofs.Outcome
import CloudPlan.Proofs.Terraform.Headings

/-!
# What mappers make

A mapper succeeds exactly on the resources that are ready for it: those that have around
them what their blocks cannot do without.  The blocks it makes then have headings after
the patterns of the type, and every reference in them goes to the resource itself or to
one of a lower tier, under the kind and the identifier by which that one is declared.  The
resource comes by that one because it is in it, depends on it or contains it.
-/

namespace CloudPlan.Terraform.Aws

open Code
open Relation (TransGen)

/-! ## Tiers -/

/-- The types whose resources refer to others, with their tiers. -/
def tiers : List (String × Nat) :=
  [("Subnet", 1), ("InternetGateway", 1), ("RouteTable", 1), ("SecurityGroup", 1),
    ("Lambda", 1), ("NATGateway", 2), ("LoadBalancer", 2), ("EC2", 2), ("RDS", 2),
    ("EBSVolume", 3)]

/-- The tier of a type: resources refer to those of lower tiers and to themselves. -/
def tier (typeName : String) : Nat :=
  (tiers.lookup typeName).getD 0

/-- A resource is the given one or stands on a lower tier. -/
def Within (resource target : Resource) : Prop :=
  target = resource ∨ tier target.typeName < tier resource.typeName

/-- How a resource comes by another one that its blocks refer to. -/
inductive Reach (context : Context) (resource target : Resource) : Prop
  /-- It is that one. -/
  | own : target = resource → Reach context resource target
  /-- It is in that one, or depends on it. -/
  | before :
      TransGen context.architecture.Precedes target.id resource.id →
      Reach context resource target
  /-- It is a gateway, and that one is the address that it contains. -/
  | address :
      resource.typeName = "NATGateway" →
      (context.children resource "ElasticIP").head? = some target →
      Reach context resource target

/-- A resource that blocks of another one may refer to. -/
structure Referable (context : Context) (resource target : Resource) : Prop where
  /-- It belongs to the architecture. -/
  member : target ∈ context.architecture.resources
  /-- It is the other one or stands on a lower tier. -/
  within : Within resource target
  /-- Resources of its type are declared. -/
  known : (kind? target.typeName).isSome
  /-- The other one comes by it. -/
  reach : Reach context resource target

/-- A reference in blocks of a resource goes where it may: to a resource within reach, to a
variable that is declared beside it, or nowhere. -/
inductive Grounded (context : Context) (resource : Resource) (headings : List Heading) :
    Reference → Prop
  | ofResource {target : Resource} {kind name field : String} :
      Referable context resource target →
      kind? target.typeName = some kind →
      context.localName? target.id = some name →
      Grounded context resource headings (.ofResource kind name field)
  | ofVariable {name : String} :
      ("variable", [name]) ∈ headings →
      Grounded context resource headings (.ofVariable name)
  | raw {expression : String} :
      Grounded context resource headings (.raw expression)

/-! ## Specification of a mapper -/

/-- Blocks that describe a resource of a kind under an identifier. -/
structure Describes (context : Context) (resource : Resource) (kind name : String)
    (blocks : List Block) : Prop where
  /-- One of the blocks declares the resource. -/
  declared : ("resource", [kind, name]) ∈ blocks.map (·.heading)
  /-- All have headings after patterns of the type, no two after the same one. -/
  headings : (blocks.map (·.heading)).Sublist
    ((patternsOf resource.typeName).map (·.heading name))
  /-- All references go where they may. -/
  grounded : ∀ block ∈ blocks,
    block.MentionsOnly (Grounded context resource (blocks.map (·.heading)))

/-- What a resource cannot be described without: a subnet and a route table are in a
private network, and a function names a role or depends on one. -/
structure Ready (context : Context) (resource : Resource) : Prop where
  /-- The private network. -/
  network : resource.typeName ∈ ["Subnet", "RouteTable"] →
    (context.ancestor? resource "VPC").isSome
  /-- The role. -/
  role : resource.typeName = "Lambda" →
    (resource.text? "role_arn").isSome ∨ context.dependencies resource "IAMRole" ≠ []

/-- A mapper describes the resources that are ready and refuses the others. -/
inductive Maps (context : Context) (resource : Resource) : Mapped (List Block) → Prop
  | done {kind name : String} {blocks : List Block} :
      Ready context resource →
      kind? resource.typeName = some kind →
      context.localName? resource.id = some name →
      Describes context resource kind name blocks →
      Maps context resource (.ok blocks)
  | refused {error : MappingError} :
      ¬Ready context resource →
      Maps context resource (.error error)

variable {context : Context} {resource : Resource} {kind name : String}

/-- A resource of a type that needs nothing around it is ready, and it has a name. -/
theorem ready_of_type
    (named : context.Named)
    (member : resource ∈ context.architecture.resources)
    {typeName : String}
    (typed : resource.typeName = typeName)
    (needsNothing : typeName ∉ ["Subnet", "RouteTable", "Lambda"])
    (isKind : kind? typeName = some kind) :
    Ready context resource ∧ kind? resource.typeName = some kind ∧
      ∃ name, context.localName? resource.id = some name := by
  subst typed
  simp only [List.mem_cons, List.not_mem_nil, or_false, not_or] at needsNothing
  refine ⟨?_, isKind, named resource member⟩
  constructor
  case network => simp [needsNothing]
  case role => simp [needsNothing]

/-- One block that declares the resource describes it. -/
theorem maps_one
    (ready : Ready context resource)
    (isKind : kind? resource.typeName = some kind)
    (isName : context.localName? resource.id = some name)
    {block : Block}
    (heading : block.heading = ("resource", [kind, name]))
    (only : block.MentionsOnly (Grounded context resource [("resource", [kind, name])])) :
    Maps context resource (.ok [block]) := by
  refine .done ready isKind isName ?_
  constructor
  case declared => simp [heading]
  case headings => simp [patternsOf, isKind, heading]
  case grounded => simpa [heading] using only

/-- A block that declares the resource and the one that goes with it describe it. -/
theorem maps_two
    (ready : Ready context resource)
    (isKind : kind? resource.typeName = some kind)
    (isName : context.localName? resource.id = some name)
    {pattern : HeadingPattern}
    (isCompanion : companions.lookup resource.typeName = some pattern)
    {block companion : Block}
    (heading : block.heading = ("resource", [kind, name]))
    (companionHeading : companion.heading = pattern.heading name)
    (only : block.MentionsOnly
      (Grounded context resource [("resource", [kind, name]), pattern.heading name]))
    (companionOnly : companion.MentionsOnly
      (Grounded context resource [("resource", [kind, name]), pattern.heading name])) :
    Maps context resource (.ok [block, companion]) := by
  refine .done ready isKind isName ?_
  constructor
  case declared => simp [heading]
  case headings => simp [patternsOf, isKind, isCompanion, heading, companionHeading]
  case grounded => simpa [heading, companionHeading] using ⟨only, companionOnly⟩

/-! ## References that mappers build -/

theorem referable_of_type
    {target : Resource}
    {own other : String}
    (typed : resource.typeName = own)
    (found : target ∈ context.architecture.resources ∧ target.typeName = other)
    (below : tier other < tier own)
    (known : (kind? other).isSome)
    (reach : Reach context resource target) :
    Referable context resource target := by
  obtain ⟨member, rfl⟩ := found
  subst typed
  exact ⟨member, Or.inr below, known, reach⟩

theorem referable_ancestor?
    (member : resource ∈ context.architecture.resources)
    {own : String}
    (typed : resource.typeName = own)
    (other : String)
    (below : tier other < tier own)
    (known : (kind? other).isSome) :
    ∀ found ∈ context.ancestor? resource other, Referable context resource found := by
  intro found isFound
  have reach : Reach context resource found :=
    .before (Context.precedes_of_ancestor? member isFound)
  exact referable_of_type typed (Context.mem_of_ancestor? isFound) below known reach

theorem referable_dependencies
    (member : resource ∈ context.architecture.resources)
    {own : String}
    (typed : resource.typeName = own)
    (other : String)
    (below : tier other < tier own)
    (known : (kind? other).isSome) :
    ∀ found ∈ context.dependencies resource other, Referable context resource found := by
  intro found isFound
  have reach : Reach context resource found :=
    .before (.single (Context.precedes_of_mem_dependencies member isFound))
  exact referable_of_type typed (Context.mem_of_mem_dependencies isFound) below known reach

theorem referable_self
    (member : resource ∈ context.architecture.resources)
    (isKind : kind? resource.typeName = some kind) :
    Referable context resource resource :=
  ⟨member, Or.inl rfl, Option.isSome_of_eq_some isKind, .own rfl⟩

theorem localName_eq (isName : context.localName? resource.id = some name) :
    localName context resource = .ok name := by
  rw [localName, isName]

theorem localName_eq_ok_iff :
    localName context resource = .ok name ↔ context.localName? resource.id = some name := by
  rw [localName]
  cases context.localName? resource.id <;> simp

theorem refer_eq
    {target : Resource}
    {kind : String}
    (isKind : kind? target.typeName = some kind)
    (isName : context.localName? target.id = some name)
    (field : String) :
    refer context target field = .ok (.ofResource kind name field) := by
  rw [refer, isKind, localName_eq isName]
  rfl

/-- What refers to a resource says under which kind and identifier it is declared. -/
theorem refer_eq_ok_iff
    {target : Resource}
    {field : String}
    {value : AttrValue} :
    refer context target field = .ok value ↔
      ∃ kind name, kind? target.typeName = some kind ∧
        context.localName? target.id = some name ∧ value = .ofResource kind name field := by
  rw [refer]
  cases isKind : kind? target.typeName with
  | none => simp
  | some kind =>
      constructor
      · intro refers
        obtain ⟨name, isName, rfl⟩ := map_eq_ok_iff.1 refers
        exact ⟨kind, name, rfl, localName_eq_ok_iff.1 isName, rfl⟩
      · rintro ⟨kind, name, ⟨⟩, isName, rfl⟩
        rw [localName_eq isName]
        rfl

theorem exists_refer
    (named : context.Named)
    {target : Resource}
    (referable : Referable context resource target)
    (field : String) :
    ∃ value, refer context target field = .ok value ∧
      ∀ headings, value.MentionsOnly (Grounded context resource headings) := by
  obtain ⟨name, isName⟩ := named target referable.member
  obtain ⟨kind, isKind⟩ := Option.isSome_iff_exists.1 referable.known
  refine ⟨.ofResource kind name field, ?_, ?_⟩
  · exact refer_eq isKind isName field
  · intro headings
    exact (AttrValue.mentionsOnly_reference_iff _).2
      (.ofResource referable isKind isName)

theorem exists_refer?
    (named : context.Named)
    {target : Option Resource}
    (referable : ∀ found ∈ target, Referable context resource found)
    (field : String) :
    ∃ value, refer? context target field = .ok value ∧
      ∀ headings, ∀ given ∈ value, given.MentionsOnly (Grounded context resource headings) := by
  cases target with
  | none => exact ⟨none, rfl, by simp⟩
  | some found =>
      obtain ⟨value, refers, only⟩ := exists_refer named (referable found rfl) field
      refine ⟨some value, ?_, by simpa using only⟩
      rw [refer?, refers]
      rfl

theorem exists_referAll
    (named : context.Named)
    {targets : List Resource}
    (referable : ∀ target ∈ targets, Referable context resource target)
    (field : String) :
    ∃ values, referAll context targets field = .ok values ∧
      ∀ headings, ∀ value ∈ values,
        value.MentionsOnly (Grounded context resource headings) := by
  obtain ⟨values, refers, only⟩ := exists_mapM_eq_ok fun target member =>
    exists_refer named (referable target member) field
  exact ⟨values, refers, fun headings value member => only value member headings⟩

theorem mentionsOnly_ofVariable
    {headings : List Heading}
    (declared : ("variable", [name]) ∈ headings) :
    (AttrValue.ofVariable name).MentionsOnly (Grounded context resource headings) :=
  (AttrValue.mentionsOnly_reference_iff _).2 (.ofVariable declared)

theorem mentionsOnly_raw
    {headings : List Heading}
    {expression : String} :
    (AttrValue.reference (.raw expression)).MentionsOnly (Grounded context resource headings) :=
  (AttrValue.mentionsOnly_reference_iff _).2 .raw

/-! ## Pieces of blocks -/

section Pieces

variable {allowed : Reference → Prop} {block : Block}

@[simp] theorem heading_tagged (block : Block) (resource : Resource) :
    (tagged block resource).heading = block.heading := rfl

@[simp] theorem heading_withList (block : Block) (key : String) (values : List AttrValue) :
    (withList block key values).heading = block.heading := by
  rw [withList]
  split <;> rfl

@[simp] theorem heading_textVariable (name description : String) :
    (textVariable name description).heading = ("variable", [name]) := rfl

/-- Tags come from texts and metadata, which hold no references. -/
theorem mentionsOnly_tags : (tags resource).MentionsOnly allowed := by
  rw [tags, AttrValue.mentionsOnly_map_iff]
  apply Attributes.MentionsOnly.ofList
  intro entry member
  rcases List.mem_cons.1 member with rfl | extra
  · exact AttrValue.mentionsOnly_text
  · split at extra
    · exact AttrValue.mentionsOnly_ofJsonMembers _ entry extra
    · contradiction

theorem mentionsOnly_textVariable
    {headings : List Heading}
    {name description : String} :
    (textVariable name description).MentionsOnly (Grounded context resource headings) :=
  Block.mentionsOnly_ofVariable.textAttr.attr mentionsOnly_raw

end Pieces

end CloudPlan.Terraform.Aws

namespace CloudPlan.Code.Block.MentionsOnly

open Terraform.Aws

variable {allowed : Reference → Prop} {block : Block}

theorem tagged
    (only : block.MentionsOnly allowed)
    {resource : Resource} :
    (tagged block resource).MentionsOnly allowed :=
  only.attr mentionsOnly_tags

theorem withList
    (only : block.MentionsOnly allowed)
    {key : String}
    {values : List AttrValue}
    (valuesOnly : ∀ value ∈ values, value.MentionsOnly allowed) :
    (withList block key values).MentionsOnly allowed := by
  rw [Terraform.Aws.withList]
  split
  · exact only
  · exact only.attr ((AttrValue.mentionsOnly_list_iff values).2 valuesOnly)

end CloudPlan.Code.Block.MentionsOnly
