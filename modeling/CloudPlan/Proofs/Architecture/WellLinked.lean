import CloudPlan.Architecture.OfGraph
import CloudPlan.Proofs.Architecture.Precedence
import CloudPlan.Proofs.Diagram.Forest

/-!
# Well linked architectures

Resources named apart, links that lead to resources, containment declared from both
of its ends, and a forest of containers.  Graphs that are forests draw well linked
architectures, and the order of the resources does not matter.
-/

namespace CloudPlan.Architecture

variable {architecture other : Architecture}

/-- The container of the resource with an id. -/
def parentId? (architecture : Architecture) (id : String) : Option String :=
  (architecture.resource? id).bind (·.parent?)

/-- Every link leads somewhere and containment, declared from both ends, is a forest. -/
structure WellLinked (architecture : Architecture) : Prop where
  /-- No two resources have the same id. -/
  distinct : architecture.ids.Nodup
  /-- Every linked id is the id of a resource. -/
  closed : architecture.Closed
  /-- No resource has two containers. -/
  oneParent : ∀ resource ∈ architecture.resources, resource.parents.length ≤ 1
  /-- No resource lists a content twice. -/
  contentsOnce : ∀ resource ∈ architecture.resources, resource.children.Nodup
  /-- Containers list what names them as its container, and only that. -/
  bothEnds : ∀ resource ∈ architecture.resources, ∀ child ∈ architecture.resources,
    (child.id ∈ resource.children ↔ resource.id ∈ child.parents)
  /-- Following containers ends. -/
  rooted : ∀ id ∈ architecture.ids, Rooted architecture.parentId? id

/-! ## Both ends -/

theorem mem_links_iff_of_mem
    (distinct : architecture.ids.Nodup)
    {resource : Resource}
    (member : resource ∈ architecture.resources)
    (relation : Relation)
    (target : String) :
    ⟨resource.id, relation, target⟩ ∈ architecture.links ↔ target ∈ resource.linked relation := by
  constructor
  · intro linkMember
    obtain ⟨owner, ownerMember, sameId, linked⟩ := (mem_links_iff _).1 linkMember
    rw [List.inj_on_of_nodup_map distinct member ownerMember sameId]
    exact linked
  · exact link_mem_links member relation

/-- Containment is declared from both ends exactly when its links come in pairs. -/
theorem bothEnds_iff_links
    (distinct : architecture.ids.Nodup)
    (closed : architecture.Closed) :
    (∀ resource ∈ architecture.resources, ∀ child ∈ architecture.resources,
      (child.id ∈ resource.children ↔ resource.id ∈ child.parents)) ↔
    ∀ container content, (⟨container, .child, content⟩ ∈ architecture.links ↔
      ⟨content, .parent, container⟩ ∈ architecture.links) := by
  constructor
  · intro both container content
    constructor
    · intro linkMember
      obtain ⟨resource, member, rfl, linked⟩ := (mem_links_iff _).1 linkMember
      obtain ⟨child, childMember, rfl⟩ := List.mem_map.1 (closed resource member .child _ linked)
      exact link_mem_links childMember .parent ((both resource member child childMember).1 linked)
    · intro linkMember
      obtain ⟨child, childMember, rfl, linked⟩ := (mem_links_iff _).1 linkMember
      obtain ⟨resource, member, rfl⟩ := List.mem_map.1 (closed child childMember .parent _ linked)
      exact link_mem_links member .child ((both resource member child childMember).2 linked)
  · intro paired resource member child childMember
    have pair := paired resource.id child.id
    rw [mem_links_iff_of_mem distinct member, mem_links_iff_of_mem distinct childMember] at pair
    exact pair

/-! ## Containers -/

theorem parentId?_of_mem
    (distinct : architecture.ids.Nodup)
    {resource : Resource}
    (member : resource ∈ architecture.resources) :
    architecture.parentId? resource.id = resource.parent? := by
  have found : architecture.resource? resource.id = some resource :=
    (find?_name_eq_some_iff distinct).2 ⟨member, rfl⟩
  rw [parentId?, found]
  rfl

theorem Closed.parentId?_mem_ids
    (closed : architecture.Closed)
    {id parent : String}
    (isParent : architecture.parentId? id = some parent) :
    parent ∈ architecture.ids := by
  obtain ⟨resource, found, first⟩ := Option.bind_eq_some_iff.1 isParent
  exact closed resource (List.mem_of_find?_eq_some found) .parent parent
    (List.mem_of_head? first)

/-- Old resources stay rooted as long as their containers stay the same. -/
theorem WellLinked.rooted_of_same
    (wellLinked : architecture.WellLinked)
    (same : ∀ resource ∈ architecture.resources,
      other.parentId? resource.id = resource.parent?)
    {id : String}
    (member : id ∈ architecture.ids) :
    Rooted other.parentId? id := by
  refine Rooted.congr (fun _ _ _ => wellLinked.closed.parentId?_mem_ids) ?_
    (wellLinked.rooted id member) member
  intro id member
  obtain ⟨resource, resourceMember, rfl⟩ := List.mem_map.1 member
  rw [same resource resourceMember, parentId?_of_mem wellLinked.distinct resourceMember]

/-! ## Other orders -/

/-- Listing the resources in another order keeps links leading somewhere. -/
theorem Closed.of_perm
    (closed : architecture.Closed)
    (resources : other.resources.Perm architecture.resources) :
    other.Closed := by
  have ids : other.ids.Perm architecture.ids := resources.map _
  intro resource member relation id linked
  exact ids.mem_iff.2 (closed resource (resources.mem_iff.1 member) relation id linked)

/-- Listing the resources in another order keeps an architecture well linked. -/
theorem WellLinked.of_perm
    (wellLinked : architecture.WellLinked)
    (resources : other.resources.Perm architecture.resources) :
    other.WellLinked := by
  have ids : other.ids.Perm architecture.ids := resources.map _
  have distinct : other.ids.Nodup := ids.nodup_iff.2 wellLinked.distinct
  constructor
  case distinct => exact distinct
  case closed => exact wellLinked.closed.of_perm resources
  case oneParent => simpa only [resources.mem_iff] using wellLinked.oneParent
  case contentsOnce => simpa only [resources.mem_iff] using wellLinked.contentsOnce
  case bothEnds => simpa only [resources.mem_iff] using wellLinked.bothEnds
  case rooted =>
    intro id member
    refine wellLinked.rooted_of_same ?_ (ids.mem_iff.1 member)
    intro resource resourceMember
    exact parentId?_of_mem distinct (resources.mem_iff.2 resourceMember)

/-! ## Drawn architectures -/

variable {graph : Graph} {provider : Provider} {region : String}

theorem ids_drawn : (drawn graph provider region).ids = graph.ids := by
  unfold ids drawn Graph.ids
  rw [List.map_map]
  rfl

theorem mem_children_ofNode (node : Node) (id : String) :
    id ∈ (ofNode graph node).children ↔ id ∈ graph.ids ∧ graph.parentId? id = some node.id := by
  simp only [ofNode, Graph.map_id_children, Graph.ids, List.mem_map, List.mem_filter, beq_iff_eq]
  constructor
  · rintro ⟨child, ⟨member, isParent⟩, rfl⟩
    exact ⟨⟨child, member, rfl⟩, isParent⟩
  · rintro ⟨⟨child, member, rfl⟩, isParent⟩
    exact ⟨child, ⟨member, isParent⟩, rfl⟩

theorem mem_parents_ofNode (node : Node) (id : String) :
    id ∈ (ofNode graph node).parents ↔ graph.parentId? node.id = some id :=
  Option.mem_toList

theorem mem_targets_ofNode (node : Node) (id : String) :
    id ∈ (ofNode graph node).targets ↔
      ∃ edge ∈ graph.dependency, edge.source = node.id ∧ edge.target = id := by
  simp [Resource.targets, ofNode, Graph.dependencies, and_assoc]

/-- The architecture that a forest draws is well linked. -/
theorem wellLinked_drawn
    (forest : graph.IsForest) :
    (drawn graph provider region).WellLinked := by
  have distinct : (drawn graph provider region).ids.Nodup := by
    rw [ids_drawn]
    exact forest.apart
  constructor
  case distinct => exact distinct
  case closed =>
    intro resource member relation id linked
    obtain ⟨node, nodeMember, rfl⟩ := List.mem_map.1 member
    rw [ids_drawn]
    cases relation with
    | parent => exact (forest.joined _ _ ((mem_parents_ofNode node id).1 linked)).2
    | child => exact ((mem_children_ofNode node id).1 linked).1
    | dependency =>
        obtain ⟨edge, edgeMember, _, rfl⟩ := (mem_targets_ofNode node id).1 linked
        exact (forest.dependenciesJoined edge edgeMember).2
  case oneParent =>
    intro resource member
    obtain ⟨node, _, rfl⟩ := List.mem_map.1 member
    exact Option.length_toList_le
  case contentsOnce =>
    intro resource member
    obtain ⟨node, _, rfl⟩ := List.mem_map.1 member
    exact graph.nodup_map_id_children forest.apart node.id
  case bothEnds =>
    intro resource member child childMember
    obtain ⟨node, _, rfl⟩ := List.mem_map.1 member
    obtain ⟨content, contentMember, rfl⟩ := List.mem_map.1 childMember
    rw [mem_children_ofNode, mem_parents_ofNode]
    exact and_iff_right (List.mem_map.2 ⟨content, contentMember, rfl⟩)
  case rooted =>
    intro id member
    rw [ids_drawn] at member
    refine Rooted.congr (fun id _ parent isParent => (forest.joined id parent isParent).2) ?_
      (forest.rooted id) member
    intro id member
    obtain ⟨node, nodeMember, rfl⟩ := List.mem_map.1 member
    have drawnMember : ofNode graph node ∈ (drawn graph provider region).resources :=
      List.mem_map.2 ⟨node, nodeMember, rfl⟩
    rw [show node.id = (ofNode graph node).id from rfl, parentId?_of_mem distinct drawnMember]
    exact Option.head?_toList

end CloudPlan.Architecture
