import CloudPlan.Architecture.Expansion

/-!
# From graphs to architectures

Every node becomes a resource with the links that the graph gives it, and hidden
rules add what nobody drew.
-/

namespace CloudPlan.Architecture

/-- The resource of a node. -/
def ofNode (graph : Graph) (node : Node) : Resource where
  id := node.id
  typeName := node.typeName
  name := node.displayName
  config := node.metadata
  parents := (graph.parentId? node.id).toList
  children := (graph.children node.id).map (·.id)
  dependsOn := (graph.dependencies node.id).map fun edge => ⟨edge.target, edge.flavour, .explicit⟩

/-- The type of every node is known for the provider. -/
def checkTypes (catalog : Catalog) (provider : Provider) : List Node → Except Catalog.Error Unit
  | [] => .ok ()
  | node :: rest => do
    let _ ← catalog.resolveFor node.typeName provider
    checkTypes catalog provider rest

/-- The architecture that a graph draws. -/
def drawn (graph : Graph) (provider : Provider) (region : String) : Architecture where
  provider
  region
  resources := graph.nodes.map (ofNode graph)
  graph := some graph

/-- The architecture of a graph, with the resources that hidden rules add. -/
def ofGraph (catalog : Catalog) (graph : Graph) (provider : Provider) (region : String) :
    Except Error Architecture :=
  match checkTypes catalog provider graph.nodes with
  | .error error => .error (.type error)
  | .ok () =>
    let expansion := expand catalog (drawn graph provider region)
    match expansion.failure with
    | some error => .error error
    | none => .ok expansion.architecture

end CloudPlan.Architecture
