import CloudPlan.Proofs.Code.Identifier
import CloudPlan.Proofs.Code.Names
import CloudPlan.Terraform.Writer

/-!
# Names for resources

Every resource of an architecture gets an identifier of its own: the one that its displayed
name gives, or that with the first number behind it which makes a new one.
-/

namespace CloudPlan.Code

open Identifier

theorem isIdentifier_of_mem_localNames
    {writer : Writer}
    (usual : writer.identifier = sanitize)
    {architecture : Architecture}
    {entry : String × String}
    (member : entry ∈ localNames writer architecture) :
    IsIdentifier entry.2 := by
  obtain ⟨resource, _, number, isNumbered⟩ := exists_numbered_of_mem_assignNames _ member
  rw [isNumbered, usual]
  exact (isIdentifier_sanitize resource.name).numbered number

theorem isIdentifier_of_localName?
    {writer : Writer}
    (usual : writer.identifier = sanitize)
    {architecture : Architecture}
    {id name : String}
    (isName : (Registry.context writer architecture).localName? id = some name) :
    IsIdentifier name :=
  isIdentifier_of_mem_localNames usual (mem_localNames_of_localName? isName)

/-- The resources of an architecture, however they are shown, have different identifiers.  For
every one of them the search for a free name ends, and it ends at once exactly when no resource
in front has been given the name itself. -/
theorem local_names_are_usable
    {writer : Writer}
    (usual : writer.identifier = sanitize)
    {architecture : Architecture}
    (distinct : architecture.ids.Nodup) :
    ∃ names : List String,
      names.length = architecture.resources.length ∧
      names.Nodup ∧
      (∀ name ∈ names, IsIdentifier name) ∧
      ∀ place resource, architecture.resources[place]? = some resource →
        ∃ name, names[place]? = some name ∧
          (Registry.context writer architecture).localName? resource.id = some name ∧
          FindsName (names.take place) (sanitize resource.name) 0 name ∧
          (name = sanitize resource.name ↔ sanitize resource.name ∉ names.take place) := by
  have apart : ((localNames writer architecture).reverse.map (·.1)).Nodup := by
    rw [List.map_reverse, List.nodup_reverse, localNames, map_fst_assignNames]
    exact distinct
  refine ⟨(localNames writer architecture).map (·.2), ?_, nodup_assignNames _ _ _, ?_, ?_⟩
  · rw [List.length_map, localNames, length_assignNames]
  · intro name member
    obtain ⟨entry, isEntry, rfl⟩ := List.mem_map.1 member
    exact isIdentifier_of_mem_localNames usual isEntry
  · intro place resource isHere
    obtain ⟨name, isGiven, finds⟩ := exists_findsName_assignNames writer.identifier [] isHere
    rw [List.append_nil, congrFun usual resource.name] at finds
    refine ⟨name, ?_, ?_, finds, finds.eq_base_iff⟩
    · rw [localNames, List.getElem?_map, isGiven, Option.map_some]
    · unfold Context.localName?
      apply (lookup_eq_some_iff_of_apart apart).2
      exact List.mem_reverse.2 (List.mem_of_getElem? isGiven)

/-- Two resources with one name, one with the name that the second of them is given, and one
that is shown by a number. -/
def crowd : Architecture where
  provider := .aws
  region := ""
  resources := [
    { id := "first", typeName := "VPC", name := "X" },
    { id := "second", typeName := "VPC", name := " x!" },
    { id := "third", typeName := "VPC", name := "x-2" },
    { id := "fourth", typeName := "VPC", name := "10" }]

/-- The third resource finds its own name given to the second one. -/
theorem local_names_of_crowd :
    Terraform.writer.identifier = sanitize ∧ crowd.ids.Nodup ∧
      localNames Terraform.writer crowd =
        [("first", "x"), ("second", "x_2"), ("third", "x_2_2"), ("fourth", "r_10")] ∧
      ∃ names : List String, names.length = 4 ∧ names.Nodup ∧
        (∀ name ∈ names, IsIdentifier name) ∧
        ∃ name ∈ names, FindsName (names.take 2) (sanitize "x-2") 0 name := by
  have usual : Terraform.writer.identifier = sanitize := by simp only [Terraform.writer]
  have distinct : crowd.ids.Nodup := by decide
  obtain ⟨names, length, apart, identifiers, given⟩ := local_names_are_usable usual distinct
  obtain ⟨name, isGiven, _, finds, _⟩ :=
    given 2 { id := "third", typeName := "VPC", name := "x-2" } rfl
  exact ⟨usual, distinct, by decide +kernel, names, length, apart, identifiers, name,
    List.mem_of_getElem? isGiven, finds⟩

end CloudPlan.Code
