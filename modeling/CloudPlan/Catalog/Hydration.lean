import CloudPlan.Catalog.Basic

/-!
# Filling a catalogue from a store

Types that a catalogue does not know may be found in a store of records, which bring
their hidden rules with them.
-/

namespace CloudPlan

/-- A resource type in a store, with its hidden rules. -/
structure TypeRecord where
  /-- The type. -/
  type : ResourceType
  /-- The rules that come with it. -/
  rules : List HiddenRule

/-- A store of resource types. -/
structure TypeStore where
  /-- The records. -/
  records : List TypeRecord
  /-- How often the store has been asked. -/
  queries : Nat := 0

namespace TypeStore

/-- The first record of a type with the given name and provider. -/
def record? (store : TypeStore) (name : String) (provider : Provider) : Option TypeRecord :=
  store.records.find? fun record => record.type.name == name && record.type.provider == provider

/-- The store after one more query. -/
def asked (store : TypeStore) : TypeStore :=
  { store with queries := store.queries + 1 }

end TypeStore

namespace Catalog

/-- Files a rule under the type that it is for, if that is known, and drops it otherwise. -/
def addRuleIfKnown (catalog : Catalog) (rule : HiddenRule) : Catalog :=
  match catalog.addRule rule with
  | .ok larger => larger
  | .error _ => catalog

/-- The catalogue with the type of a record and with the rules that have a place in it. -/
def addRecord (catalog : Catalog) (record : TypeRecord) : Catalog :=
  let own := record.rules.filter (·.parentType == record.type.name)
  let linked := record.rules.filter (·.parentType != record.type.name)
  linked.foldl addRuleIfKnown (catalog.register record.type own)

/-- What filling a catalogue leads to. -/
structure Hydration where
  /-- The store, after the queries. -/
  store : TypeStore
  /-- The catalogue with the types that were found. -/
  catalog : Catalog
  /-- How many types were added. -/
  added : Nat

/-- Adds those of the named types that the catalogue lacks and the store has for the provider. -/
def hydrate (store : TypeStore) (provider : Provider) (catalog : Catalog) :
    List String → Hydration
  | [] => ⟨store, catalog, 0⟩
  | name :: rest =>
    if catalog.contains name then
      hydrate store provider catalog rest
    else
      match store.record? name provider with
      | none => hydrate store.asked provider catalog rest
      | some record =>
        let filled := hydrate store.asked provider (catalog.addRecord record) rest
        { filled with added := filled.added + 1 }

end Catalog

end CloudPlan
