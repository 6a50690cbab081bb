import CloudPlan.Proofs.Code.References
import CloudPlan.Proofs.Lookup
import CloudPlan.Terraform.Aws
import Mathlib.Data.List.Infix

/-!
# Headings that differ

The blocks of a resource have headings that are made of its identifier, each after a
pattern of its own.  Patterns that differ in their suffix alone have suffixes of which
none ends in another one, so a heading tells both its pattern and the identifier.
-/

namespace CloudPlan.Terraform.Aws

open Code

/-- The heading of a sort of block, but for the identifier of the resource. -/
structure HeadingPattern where
  /-- The type. -/
  type : String
  /-- The labels before the last one. -/
  labels : List String := []
  /-- What the last label has after the identifier. -/
  suffix : String
deriving DecidableEq

/-- The heading of the block for an identifier. -/
def HeadingPattern.heading (pattern : HeadingPattern) (name : String) : Heading :=
  (pattern.type, pattern.labels ++ [name ++ pattern.suffix])

/-- The block that declares a resource of a kind. -/
def mainPattern (kind : String) : HeadingPattern :=
  { type := "resource", labels := [kind], suffix := "" }

/-- The blocks that go with those that declare resources, by the type of the resource. -/
def companions : List (String × HeadingPattern) :=
  [("VPC", { type := "output", suffix := "_id" }),
    ("IAMRole",
      { type := "resource"
        labels := ["aws_iam_role_policy_attachment"]
        suffix := "_basic_execution" }),
    ("EC2", { type := "variable", suffix := "_ami" }),
    ("EBSVolume",
      { type := "resource", labels := ["aws_volume_attachment"], suffix := "_attachment" }),
    ("S3", { type := "output", suffix := "_arn" }),
    ("RDS", { type := "variable", suffix := "_password" })]

/-- The blocks that a resource of a type may have. -/
def patternsOf (typeName : String) : List HeadingPattern :=
  (kind? typeName).toList.map mainPattern ++ (companions.lookup typeName).toList

/-- The variable that every project has, as if it belonged to a resource without a name. -/
def regionPattern : HeadingPattern :=
  { type := "variable", suffix := "region" }

/-- The patterns of the blocks of resources. -/
def resourcePatterns : List HeadingPattern :=
  kinds.map (mainPattern ·.2) ++ companions.map (·.2)

/-- All patterns of blocks that are told apart by their labels. -/
def patterns : List HeadingPattern :=
  regionPattern :: resourcePatterns

@[simp] theorem heading_mainPattern (kind name : String) :
    (mainPattern kind).heading name = ("resource", [kind, name]) := by
  simp [HeadingPattern.heading, mainPattern]

theorem heading_regionPattern : regionPattern.heading "" = ("variable", ["region"]) := by
  simp [HeadingPattern.heading, regionPattern]

theorem patternsOf_subset (typeName : String) : patternsOf typeName ⊆ resourcePatterns := by
  intro pattern member
  rw [patternsOf, List.mem_append, List.mem_map] at member
  rcases member with ⟨kind, isKind, rfl⟩ | isCompanion
  · have listed := mem_of_lookup_eq_some (Option.mem_toList.1 isKind)
    exact List.mem_append_left _ (List.mem_map.2 ⟨_, listed, rfl⟩)
  · have listed := mem_of_lookup_eq_some (Option.mem_toList.1 isCompanion)
    exact List.mem_append_right _ (List.mem_map.2 ⟨_, listed, rfl⟩)

theorem resourcePatterns_subset : resourcePatterns ⊆ patterns :=
  List.subset_cons_self _ _

theorem regionPattern_not_mem : regionPattern ∉ resourcePatterns := by
  decide +kernel

theorem type_mem_of_mem_resourcePatterns :
    ∀ pattern ∈ resourcePatterns, pattern.type ∈ ["resource", "variable", "output"] := by
  decide +kernel

/-- No block that goes with another one is declared as a resource of the catalogue. -/
theorem mainPattern_ne_companion :
    ∀ kind ∈ kinds, ∀ companion ∈ companions, mainPattern kind.2 ≠ companion.2 := by
  decide +kernel

theorem nodup_patternsOf (typeName : String) : (patternsOf typeName).Nodup := by
  rw [patternsOf]
  cases isKind : kind? typeName with
  | none => cases companions.lookup typeName <;> simp
  | some kind =>
      cases isCompanion : companions.lookup typeName with
      | none => simp
      | some companion =>
          have apart := mainPattern_ne_companion _ (mem_of_lookup_eq_some isKind) _
            (mem_of_lookup_eq_some isCompanion)
          simpa using apart

/-- Patterns that differ in their suffix alone have suffixes of which none ends in another. -/
theorem suffixes_apart :
    ∀ first ∈ patterns, ∀ second ∈ patterns,
      first.type = second.type → first.labels = second.labels →
        first.suffix.toList <:+ second.suffix.toList → first = second := by
  decide +kernel

/-- A heading tells its pattern and the identifier. -/
theorem eq_of_heading_eq
    {first second : HeadingPattern}
    {name other : String}
    (isFirst : first ∈ patterns)
    (isSecond : second ∈ patterns)
    (equal : first.heading name = second.heading other) :
    first = second ∧ name = other := by
  obtain ⟨sameType, sameLabels⟩ := Prod.mk.injEq .. ▸ equal
  obtain ⟨labels, lastLabel⟩ := List.append_inj' sameLabels rfl
  have texts : (name ++ first.suffix).toList = (other ++ second.suffix).toList := by
    rw [(List.cons.inj lastLabel).1]
  simp only [String.toList_append] at texts
  have samePattern : first = second := by
    rcases List.suffix_or_suffix_of_suffix (texts ▸ List.suffix_append _ _)
      (List.suffix_append _ second.suffix.toList) with shorter | longer
    · exact suffixes_apart first isFirst second isSecond sameType labels shorter
    · exact (suffixes_apart second isSecond first isFirst sameType.symm labels.symm longer).symm
  subst samePattern
  exact ⟨rfl, String.toList_inj.1 (List.append_cancel_right texts)⟩

end CloudPlan.Terraform.Aws
