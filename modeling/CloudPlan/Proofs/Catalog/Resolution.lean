import CloudPlan.Catalog.Basic
import CloudPlan.Proofs.Outcome

/-!
# Resolving types

A type resolves when its name is known, and resolves for a provider when it is moreover
registered for that provider.
-/

namespace CloudPlan.Catalog

variable {catalog : Catalog} {name : String} {provider : Provider} {type : ResourceType}

theorem resolve_eq_ok_iff :
    catalog.resolve name = .ok type ↔ catalog.resolve? name = some type := by
  rw [resolve]
  split
  next found => simp [found]
  next absent => simp [absent]

/-- A type resolves for a provider when it resolves and is registered for the provider. -/
theorem resolveFor_eq_ok_iff :
    catalog.resolveFor name provider = .ok type ↔
      catalog.resolve name = .ok type ∧ type.provider = provider := by
  rw [resolveFor, bind_eq_ok_iff]
  constructor
  · rintro ⟨found, resolves, offered⟩
    split_ifs at offered with isProvider
    obtain rfl := Except.ok.inj offered
    exact ⟨resolves, isProvider⟩
  · rintro ⟨resolves, isProvider⟩
    exact ⟨type, resolves, by rw [if_pos isProvider]; rfl⟩

/-- A name resolves exactly when a type of this name is known. -/
theorem exists_resolve_iff :
    (∃ type, catalog.resolve name = .ok type) ↔ catalog.contains name := by
  simp only [resolve_eq_ok_iff, contains, Option.isSome_iff_exists]

theorem contains_of_resolve
    (resolves : catalog.resolve name = .ok type) :
    catalog.contains name :=
  exists_resolve_iff.1 ⟨type, resolves⟩

/-- A type that resolves for a provider is known under its name. -/
theorem contains_of_resolveFor
    (resolves : catalog.resolveFor name provider = .ok type) :
    catalog.contains name :=
  contains_of_resolve (resolveFor_eq_ok_iff.1 resolves).1

end CloudPlan.Catalog
