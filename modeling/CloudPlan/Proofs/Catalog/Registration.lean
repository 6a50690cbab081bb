import CloudPlan.Catalog.Basic
import Mathlib.Data.List.Nodup

/-!
# Names and types in step

A catalogue keeps its types by name, and their names apart from them in order of registration.
Every registration keeps the two in step: the names are those that types stand under, each
listed once, so there are as many of them as there are types.
-/

namespace CloudPlan

namespace Dictionary

variable {α : Type} {dictionary : Dictionary α} {key : String}

/-- Under a new key a value is added. -/
theorem keys_insert_of_notMem
    (unknown : key ∉ dictionary.keys)
    (value : α) :
    (dictionary.insert key value).keys = key :: dictionary.keys := by
  have isOther : ∀ other ∈ dictionary.keys, (other != key) = true := by
    intro other isKey
    rw [bne_iff_ne]
    rintro rfl
    exact unknown isKey
  rw [keys_insert, List.filter_eq_self.2 isOther]

/-- Under a key that has a value the keys stay the same. -/
theorem keys_insert_perm_of_mem
    (known : key ∈ dictionary.keys)
    (value : α) :
    (dictionary.insert key value).keys.Perm dictionary.keys := by
  rw [keys_insert, ← dictionary.nodup_keys.erase_eq_filter]
  exact (List.perm_cons_erase known).symm

end Dictionary

namespace Catalog

variable {catalog : Catalog} {name : String}

/-- A catalogue lists the names of its types, and no others. -/
structure InStep (catalog : Catalog) : Prop where
  /-- The listed names are those that types stand under. -/
  listed : catalog.order.Perm catalog.registered.keys
  /-- A type stands under its own name. -/
  named : ∀ name type, catalog.resolve? name = some type → type.name = name

theorem contains_iff_mem_keys : catalog.contains name ↔ name ∈ catalog.registered.keys :=
  Dictionary.isSome_get?_iff

theorem resolve?_register
    (type : ResourceType)
    (rules : List HiddenRule) :
    (catalog.register type rules).resolve? name =
      if name = type.name then some type else catalog.resolve? name :=
  catalog.registered.get?_insert type.name name type

/-- A registered type is known from then on, like those before it. -/
theorem contains_register_iff
    (type : ResourceType)
    (rules : List HiddenRule) :
    (catalog.register type rules).contains name ↔
      name = type.name ∨ catalog.contains name := by
  rw [contains, resolve?_register, contains]
  split
  next isNew => simp [isNew]
  next isOther => simp [isOther]

/-- A new name is listed behind the others. -/
theorem names_register_of_unknown
    {type : ResourceType}
    (unknown : ¬catalog.contains type.name)
    (rules : List HiddenRule) :
    (catalog.register type rules).names = catalog.names ++ [type.name] :=
  if_neg unknown

namespace InStep

theorem contains_iff (inStep : catalog.InStep) : catalog.contains name ↔ name ∈ catalog.names := by
  rw [contains_iff_mem_keys, names, inStep.listed.mem_iff]

theorem nodup_names (inStep : catalog.InStep) : catalog.names.Nodup :=
  inStep.listed.nodup_iff.2 catalog.registered.nodup_keys

/-- There are as many names as types. -/
theorem size_eq (inStep : catalog.InStep) : catalog.size = catalog.names.length := by
  rw [size, Dictionary.size_eq, names, inStep.listed.length_eq]

/-- Listing the types lists them under all names. -/
theorem map_name_types (inStep : catalog.InStep) :
    catalog.types.map (·.name) = catalog.names := by
  have named : ∀ name ∈ catalog.names, (catalog.resolve? name).map (·.name) = some name := by
    intro name listed
    obtain ⟨type, resolves⟩ := Option.isSome_iff_exists.1 (inStep.contains_iff.2 listed)
    rw [resolves, Option.map_some, inStep.named name type resolves]
  rw [types, List.map_filterMap, ← names, List.filterMap_congr named, List.filterMap_some]

protected theorem empty : empty.InStep where
  listed := List.Perm.refl _
  named _ _ resolves := by cases resolves

/-- A registration keeps names and types in step. -/
protected theorem register
    (inStep : catalog.InStep)
    (type : ResourceType)
    (rules : List HiddenRule) :
    (catalog.register type rules).InStep := by
  constructor
  case listed =>
    rw [Catalog.register]
    by_cases known : catalog.contains type.name
    · rw [if_pos known]
      exact inStep.listed.trans
        (Dictionary.keys_insert_perm_of_mem (contains_iff_mem_keys.1 known) type).symm
    · rw [if_neg known, Dictionary.keys_insert_of_notMem (mt contains_iff_mem_keys.2 known)]
      exact (List.perm_append_singleton _ _).trans (inStep.listed.cons _)
  case named =>
    intro name other resolves
    rw [resolve?_register] at resolves
    split at resolves
    next isNew => rw [← Option.some.inj resolves, isNew]
    next => exact inStep.named name other resolves

end InStep

end Catalog

end CloudPlan
