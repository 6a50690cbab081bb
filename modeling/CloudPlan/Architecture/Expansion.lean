import CloudPlan.Architecture.Basic

/-!
# Hidden resources

Hidden rules add the resources that nobody drew.  Resources that are already linked
count toward what a rule asks for, so a second expansion finds nothing to add.  A
rule that fails stops the expansion and leaves what the rules before it have added.
-/

namespace CloudPlan.Architecture

/-- How a hidden rule appears in the ids of the resources it adds. -/
def slug (rule : HiddenRule) : String :=
  Text.lower rule.childType

/-- The id of the resource that a rule adds under a number. -/
def childId (parent slug : String) (number : Nat) : String :=
  parent ++ "-" ++ slug ++ "-" ++ toString number

/--
The first so many ids that the numbers from one on give and that are not taken.  Of
as many numbers as there are taken ids and wanted ones, enough are free.
-/
def freshIds (taken : List String) (parent slug : String) (wanted : Nat) : List String :=
  let candidates := (List.range (taken.length + wanted)).map fun n => childId parent slug (n + 1)
  (candidates.filter (· ∉ taken)).take wanted

/-- The resource that a rule adds under an id. -/
def synthesize (rule : HiddenRule) (parent id : String) : Resource :=
  { Resource.ofType id rule.childType with
    parents := if rule.isAttached then [parent] else []
    synthesized := true }

/-- A resource with links to what a rule adds for it. -/
def linkTo (rule : HiddenRule) (ids : List String) (resource : Resource) : Resource :=
  if rule.isAttached then
    { resource with children := resource.children ++ ids }
  else
    { resource with
      dependsOn := resource.dependsOn ++ ids.map (⟨·, .dependsOn, .hidden⟩) }

/-- The ids that a resource is linked to in the way of a rule. -/
def linkedIds (rule : HiddenRule) (resource : Resource) : List String :=
  if rule.isAttached then resource.children else resource.targets

/-- How many of the links that a rule is about lead to resources of its type. -/
def linkedCount (architecture : Architecture) (rule : HiddenRule) (resource : Resource) : Nat :=
  (linkedIds rule resource).countP fun id =>
    ((architecture.resource? id).map (·.typeName)) == some rule.childType

/-- Puts resources after the first one of an id and after the synthesized ones behind it. -/
def insertAfter (id : String) (added : List Resource) : List Resource → List Resource
  | [] => added
  | resource :: rest =>
    if resource.id = id then
      resource :: rest.takeWhile (·.synthesized) ++ added ++ rest.dropWhile (·.synthesized)
    else
      resource :: insertAfter id added rest

/-- The architecture with the resources that a rule adds for a parent under the given ids. -/
def addChildren (architecture : Architecture) (rule : HiddenRule) (parent : String)
    (ids : List String) : Architecture :=
  { architecture with
    resources := insertAfter parent (ids.map (synthesize rule parent))
      (modifyFirst parent (linkTo rule ids) architecture.resources) }

/-- How many resources a rule wants linked to a resource; nothing if it does not apply. -/
def wantedCount (catalog : Catalog) (rule : HiddenRule) (config : Metadata) :
    Except Error (Option Nat) :=
  match rule.appliesTo config with
  | .error error => .error (.expression error)
  | .ok false => .ok none
  | .ok true =>
    match rule.count config with
    | .error error => .error (.expression error)
    | .ok count =>
      match catalog.resolve rule.childType with
      | .error error => .error (.type error)
      | .ok _ => .ok (some count)

/-- The ids under which a rule adds resources for a parent. -/
def missingIds (catalog : Catalog) (architecture : Architecture) (rule : HiddenRule)
    (parent : String) : Except Error (List String) :=
  match architecture.resource? parent with
  | none => .error (.vanished parent)
  | some resource =>
    (wantedCount catalog rule resource.config).map fun wanted =>
      freshIds architecture.ids parent (slug rule)
        (wanted.getD 0 - linkedCount architecture rule resource)

/-- What an expansion leads to. -/
structure Expansion where
  /-- The architecture, with all that was added to it. -/
  architecture : Architecture
  /-- How many resources were added. -/
  added : Nat := 0
  /-- The error that stopped the expansion, if one did. -/
  failure : Option Error := none

namespace Expansion

/-- The number of added resources, or the error. -/
def result (expansion : Expansion) : Except Error Nat :=
  match expansion.failure with
  | some error => .error error
  | none => .ok expansion.added

end Expansion

/-- Applies rules to parents one after the other until one fails. -/
def applyRules (catalog : Catalog) (expansion : Expansion) :
    List (String × HiddenRule) → Expansion
  | [] => expansion
  | (parent, rule) :: rest =>
    match missingIds catalog expansion.architecture rule parent with
    | .error error => { expansion with failure := some error }
    | .ok ids =>
      applyRules catalog
        { architecture := addChildren expansion.architecture rule parent ids
          added := expansion.added + ids.length }
        rest

/-- The resources that were not synthesized, each with the rules of its type for the provider. -/
def dueRules (catalog : Catalog) (architecture : Architecture) : List (String × HiddenRule) :=
  (architecture.resources.filter (!·.synthesized)).flatMap fun resource =>
    ((catalog.hiddenRules resource.typeName).filter
      (Provider.covers ·.provider architecture.provider)).map (resource.id, ·)

/-- Adds the resources that hidden rules ask for. -/
def expand (catalog : Catalog) (architecture : Architecture) : Expansion :=
  applyRules catalog { architecture } (dueRules catalog architecture)

end CloudPlan.Architecture
