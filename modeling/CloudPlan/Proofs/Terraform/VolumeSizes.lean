import CloudPlan.Proofs.Number.Reading
import CloudPlan.Proofs.Terraform.Attachments

/-!
# Sizes of volumes

A volume without a size of its own has the size that its instance gives, and 20 if that gives
none.  A value may denote a whole number for expressions and give no size: only integers and
texts of digits give one.  What such a value gives is the number that it denotes for expressions.
-/

namespace CloudPlan

/-- A value denotes a whole number for expressions. -/
def Denotes (value : Json.Value) (whole : Nat) : Prop :=
  ∃ x, (Expression.Value.ofJson value).number? = some x ∧ Number.IsWhole x whole

/-- A value is written as an integer: as one that is not negative, or as a text of digits, with a
plus sign at most, between blanks. -/
def IsPlain : Json.Value → Prop
  | .number (.integer value) => 0 ≤ value
  | .text content => ∃ digits, Number.IsDigits digits ∧
      (Text.trimChars content.toList = digits ∨ Text.trimChars content.toList = '+' :: digits)
  | _ => False

namespace Terraform.Aws

open Code

variable {context : Context} {architecture : Architecture} {resource volume host : Resource}
  {block : Block} {value : Json.Value} {key : String} {whole : Nat}

/-! ## Numbers in metadata -/

theorem natural?_eq_none_of_not_isPlain
    (found : resource.config.lookup key = some value)
    (notPlain : ¬IsPlain value) :
    natural? resource key = none := by
  rw [natural?, found]
  cases value with
  | number number =>
      cases number with
      | integer value => exact if_neg notPlain
      | float x => rfl
  | text content =>
      rw [Option.eq_none_iff_forall_ne_some]
      intro number read
      obtain ⟨digits, areDigits, spelled, -⟩ := Number.word?_eq_some_iff.1 read
      rw [Text.trim, String.toList_ofList] at spelled
      exact notPlain ⟨digits, areDigits, spelled⟩
  | null => rfl
  | bool value => rfl
  | list items => rfl
  | object members => rfl

/-- What is written as an integer is the number that it denotes for expressions. -/
theorem natural?_of_isPlain
    (found : resource.config.lookup key = some value)
    (plain : IsPlain value)
    (denotes : Denotes value whole)
    (small : whole < 2 ^ 53) :
    natural? resource key = some whole := by
  obtain ⟨x, isNumber, isWhole⟩ := denotes
  rw [natural?, found]
  cases value with
  | number number =>
      cases number with
      | integer value =>
          obtain rfl := Option.some.inj isNumber
          have isDouble : (Json.Number.integer value).toFloat =
              Float.ofScientific value.toNat false 0 := if_pos plain
          rw [isDouble, Number.isWhole_ofScientific_iff small] at isWhole
          rw [← isWhole]
          exact if_pos plain
      | float x => exact plain.elim
  | text content =>
      obtain ⟨digits, areDigits, spelled⟩ := plain
      have isNearest : Expression.Value.textNumber? content =
          some (Number.nearest (Text.readDigits 0 digits) 0) := by
        rw [Expression.Value.textNumber?]
        rcases spelled with plain | signed
        · rw [plain, Number.float?_of_isDigits areDigits]
        · rw [signed, Number.float?_of_plus_isDigits areDigits]
      obtain rfl := Option.some.inj (isNearest.symm.trans isNumber)
      have isNumber := (Number.isWhole_nearest_iff small).1 isWhole
      have fits : whole < Text.wordBound := Nat.lt_trans small (by decide)
      refine Number.word?_eq_some_iff.2 ⟨digits, areDigits, ?_, isNumber, fits⟩
      rw [Text.trim, String.toList_ofList]
      exact spelled
  | null => exact plain.elim
  | bool value => exact plain.elim
  | list items => exact plain.elim
  | object members => exact plain.elim

/-! ## Volumes that were added -/

/-- A block that declares a volume. -/
def IsVolume (block : Block) : Prop :=
  ∃ name, block.heading = ("resource", ["aws_ebs_volume", name])

theorem heading_of_attachment
    {name : String}
    (made : attachment context volume host name = .ok block) :
    block.heading = ("resource", ["aws_volume_attachment", name ++ "_attachment"]) := by
  rw [attachment] at made
  obtain ⟨own, -, made⟩ := bind_eq_ok_iff.1 made
  obtain ⟨attachedTo, -, made⟩ := bind_eq_ok_iff.1 made
  cases made
  simp

/-- The block of a volume holds its size, with what the instance that contains it gives. -/
theorem size_of_ebsVolume
    {blocks : List Block}
    (made : ebsVolume volume context = .ok blocks)
    (isBlock : block ∈ blocks)
    (isVolume : IsVolume block) :
    block.attributes.lookup "size" =
      some (.ofNat (volumeSize volume (hostInstance? context volume))) := by
  rw [ebsVolume] at made
  obtain ⟨name, -, made⟩ := bind_eq_ok_iff.1 made
  cases isHost : hostInstance? context volume with
  | none =>
      simp only [isHost] at made
      cases made
      obtain rfl := List.mem_singleton.1 isBlock
      rfl
  | some host =>
      simp only [isHost] at made
      obtain ⟨zone, -, made⟩ := bind_eq_ok_iff.1 made
      obtain ⟨attached, isAttached, made⟩ := bind_eq_ok_iff.1 made
      cases made
      rcases List.mem_cons.1 isBlock with rfl | isOther
      · rfl
      · obtain rfl := List.mem_singleton.1 isOther
        obtain ⟨label, isHeading⟩ := isVolume
        rw [heading_of_attachment isAttached] at isHeading
        simp at isHeading

/-- A volume without metadata has the size that its instance gives. -/
theorem volumeSize_of_bare
    (bare : volume.config = [])
    (host : Resource) :
    volumeSize volume (some host) = (natural? host "extra_volume_gb").getD 20 := by
  have noSize : natural? volume "size_gb" = none := by
    rw [natural?, bare]
    rfl
  rw [volumeSize, noSize]
  rfl

/-- Where an instance gives a whole number as the size of its volumes, a volume without metadata
has this size exactly when it is written as an integer, or is the size of the other volumes. -/
theorem size_eq_iff
    (mappable : Mappable architecture)
    (member : volume ∈ architecture.resources)
    (typed : volume.typeName = "EBSVolume")
    (bare : volume.config = [])
    (isHost : hostInstance? (contextOf architecture) volume = some host)
    (found : host.config.lookup "extra_volume_gb" = some value)
    (denotes : Denotes value whole)
    (small : whole < 2 ^ 53)
    (isBlock : block ∈ blocksOf architecture volume)
    (isVolume : IsVolume block) :
    block.attributes.lookup "size" = some (.ofNat whole) ↔ IsPlain value ∨ whole = 20 := by
  have made := ebsVolume_eq_ok mappable member typed
  have sameSize : ∀ first second : Nat,
      some (AttrValue.ofNat first) = some (AttrValue.ofNat second) ↔ first = second := by
    simp [AttrValue.ofNat]
  rw [size_of_ebsVolume made isBlock isVolume, isHost, volumeSize_of_bare bare, sameSize]
  by_cases plain : IsPlain value
  · simp [natural?_of_isPlain found plain denotes small, plain]
  · simp [natural?_eq_none_of_not_isPlain found plain, plain, eq_comm]

end Terraform.Aws

end CloudPlan
