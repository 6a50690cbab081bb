import CloudPlan.Architecture.Order
import CloudPlan.Proofs.Lookup
import CloudPlan.Proofs.Relation.Acyclic
import CloudPlan.Proofs.Sequence

/-!
# What comes before what

A container precedes its contents and a prerequisite what depends on it, whichever
side declares the link.  When all links lead somewhere the provisioning edges list
this relation without repetition, and their places are edges between places.
-/

namespace CloudPlan

open Architecture (Relation)

/-- The ids that a resource is linked to in a relation. -/
def Resource.linked (resource : Resource) : Relation → List String
  | .parent => resource.parents
  | .child => resource.children
  | .dependency => resource.targets

namespace Architecture

variable {architecture : Architecture}

/-- Every id that a resource is linked to is the id of a resource. -/
def Closed (architecture : Architecture) : Prop :=
  ∀ resource ∈ architecture.resources, ∀ relation, ∀ id ∈ resource.linked relation,
    id ∈ architecture.ids

/-- One resource has to be there before another. -/
inductive Precedes (architecture : Architecture) : String → String → Prop
  | parent {resource : Resource} {parent : String} :
      resource ∈ architecture.resources → parent ∈ resource.parents →
      Precedes architecture parent resource.id
  | child {resource : Resource} {child : String} :
      resource ∈ architecture.resources → child ∈ resource.children →
      Precedes architecture resource.id child
  | dependency {resource : Resource} {target : String} :
      resource ∈ architecture.resources → target ∈ resource.targets →
      Precedes architecture target resource.id

theorem id_mem_ids
    {resource : Resource}
    (member : resource ∈ architecture.resources) :
    resource.id ∈ architecture.ids :=
  List.mem_map.2 ⟨resource, member, rfl⟩

theorem id_of_resource?
    {id : String}
    {resource : Resource}
    (found : architecture.resource? id = some resource) :
    resource.id = id := by
  simpa using List.find?_some found

/-- An id that leads to a resource is the id of one. -/
theorem mem_ids_of_resource?
    {id : String}
    {resource : Resource}
    (found : architecture.resource? id = some resource) :
    id ∈ architecture.ids := by
  rw [← id_of_resource? found]
  exact id_mem_ids (List.mem_of_find?_eq_some found)

/-- When all links lead somewhere, precedence relates resources. -/
theorem Closed.mem_ids
    (closed : architecture.Closed)
    {before after : String}
    (precedes : architecture.Precedes before after) :
    before ∈ architecture.ids ∧ after ∈ architecture.ids := by
  cases precedes with
  | parent member linked => exact ⟨closed _ member .parent _ linked, id_mem_ids member⟩
  | child member linked => exact ⟨id_mem_ids member, closed _ member .child _ linked⟩
  | dependency member linked => exact ⟨closed _ member .dependency _ linked, id_mem_ids member⟩

/-! ## Links and edges -/

/-- The links of an architecture are those of its resources. -/
theorem mem_links_iff (link : Link) :
    link ∈ architecture.links ↔
      ∃ resource ∈ architecture.resources,
        link.owner = resource.id ∧ link.target ∈ resource.linked link.relation := by
  obtain ⟨owner, relation, target⟩ := link
  simp only [links, List.mem_flatMap, Link.ofResource, List.mem_append, List.mem_map,
    Link.mk.injEq]
  refine exists_congr fun resource => and_congr_right fun _ => ?_
  cases relation <;> simp [Resource.linked, and_comm, eq_comm]

/-- The link of a resource in a relation. -/
theorem link_mem_links
    {resource : Resource}
    (member : resource ∈ architecture.resources)
    (relation : Relation)
    {target : String}
    (linked : target ∈ resource.linked relation) :
    ⟨resource.id, relation, target⟩ ∈ architecture.links :=
  (mem_links_iff _).2 ⟨resource, member, rfl, linked⟩

/-- One resource precedes another exactly when some link says so. -/
theorem precedes_iff_exists_link (before after : String) :
    architecture.Precedes before after ↔
      ∃ link ∈ architecture.links, link.edge = ⟨before, after⟩ := by
  constructor
  · intro precedes
    cases precedes with
    | parent member linked => exact ⟨_, link_mem_links member .parent linked, rfl⟩
    | child member linked => exact ⟨_, link_mem_links member .child linked, rfl⟩
    | dependency member linked => exact ⟨_, link_mem_links member .dependency linked, rfl⟩
  · rintro ⟨⟨owner, relation, target⟩, linkMember, isEdge⟩
    obtain ⟨resource, member, rfl, linked⟩ := (mem_links_iff _).1 linkMember
    cases relation <;> obtain ⟨rfl, rfl⟩ := ProvisioningEdge.mk.inj isEdge
    case parent => exact Precedes.parent member linked
    case child => exact Precedes.child member linked
    case dependency => exact Precedes.dependency member linked

/-- All linked ids are ids of resources exactly when every link leads to a resource. -/
theorem closed_iff_links :
    architecture.Closed ↔ ∀ link ∈ architecture.links, link.target ∈ architecture.ids := by
  constructor
  · intro closed link linkMember
    obtain ⟨resource, member, _, linked⟩ := (mem_links_iff link).1 linkMember
    exact closed resource member link.relation link.target linked
  · intro known resource member relation id linked
    exact known _ (link_mem_links member relation linked)

/-- The edges that links make, each once. -/
def linkEdges (architecture : Architecture) : List ProvisioningEdge :=
  (architecture.links.map Link.edge).eraseDups

theorem nodup_linkEdges : architecture.linkEdges.Nodup :=
  nodup_eraseDups _

theorem mem_linkEdges_iff (edge : ProvisioningEdge) :
    edge ∈ architecture.linkEdges ↔ architecture.Precedes edge.before edge.after := by
  rw [precedes_iff_exists_link, linkEdges, List.mem_eraseDups, List.mem_map]

/-- When all links lead somewhere their edges are listed. -/
theorem provisioningEdges_of_closed
    (closed : architecture.Closed) :
    architecture.provisioningEdges = .ok architecture.linkEdges := by
  have noDangling : architecture.danglingLink? = none := by
    rw [danglingLink?, List.find?_eq_none]
    intro link member
    simpa using closed_iff_links.1 closed link member
  rw [provisioningEdges, noDangling]
  rfl

/-- A link that leads nowhere is reported. -/
theorem provisioningEdges_of_not_closed
    (dangling : ¬ architecture.Closed) :
    ∃ link ∈ architecture.links, link.target ∉ architecture.ids ∧
      architecture.provisioningEdges =
        .error (.unknownLink link.owner link.relation link.target) := by
  cases found : architecture.danglingLink? with
  | none =>
      rw [danglingLink?, List.find?_eq_none] at found
      refine absurd (closed_iff_links.2 fun link member => ?_) dangling
      simpa using found link member
  | some link =>
      have unknown := List.find?_some found
      refine ⟨link, List.mem_of_find?_eq_some found, by simpa using unknown, ?_⟩
      rw [provisioningEdges, found]

end Architecture

end CloudPlan
