import CloudPlan.Proofs.Architecture.WellLinked
import CloudPlan.Proofs.Terraform.Project

/-!
# Volumes that are attached to instances

A volume that an instance contains is attached to it, under the device name that belongs to
its place among the volumes of the instance.  There are eleven device names, and behind the
last one they begin again.  So two volumes of an instance share a device name when their places
differ by a multiple of eleven, and none do as long as no instance contains more than eleven.
-/

namespace CloudPlan.Terraform.Aws

open Code

variable {context : Context} {architecture : Architecture} {resource volume host : Resource}
  {block : Block} {place : Nat}

/-! ## Device names -/

/-- Device names are shared from eleven places to the next. -/
theorem deviceName_eq_iff
    {other : Nat} :
    deviceName place = deviceName other ↔ place % deviceCount = other % deviceCount := by
  have apart : ∀ first < deviceCount, ∀ second < deviceCount,
      Char.ofNat ('f'.toNat + first) = Char.ofNat ('f'.toNat + second) → first = second := by
    decide
  constructor
  · intro same
    have letters := congrArg String.toList same
    simp only [deviceName, String.toList_append, String.toList_singleton,
      List.append_cancel_left_eq, List.cons.injEq, and_true] at letters
    exact apart _ (Nat.mod_lt _ (by decide)) _ (Nat.mod_lt _ (by decide)) letters
  · intro same
    rw [deviceName, deviceName, same]

/-! ## Attachments -/

/-- A block that attaches a volume. -/
def IsAttachment (block : Block) : Prop :=
  ∃ name, block.heading = ("resource", ["aws_volume_attachment", name])

/-- A block attaches a volume to the instance that lists it at a place among its volumes. -/
structure Attaches (context : Context) (block : Block) (host volume : Resource)
    (place : Nat) : Prop where
  /-- The instance belongs to the architecture. -/
  member : host ∈ context.architecture.resources
  /-- It is an instance. -/
  typed : host.typeName = "EC2"
  /-- The volume stands at the place. -/
  stands : (context.children host "EBSVolume")[place]? = some volume
  /-- The block is named for the volume. -/
  heading : ∃ name, context.localName? volume.id = some name ∧
    block.heading = ("resource", ["aws_volume_attachment", name ++ "_attachment"])
  /-- The device name is that for the place. -/
  device : block.attributes.lookup "device_name" = some (.text (deviceName place))
  /-- The block refers to the instance. -/
  attached : ∃ name, context.localName? host.id = some name ∧
    block.attributes.lookup "instance_id" = some (.ofResource "aws_instance" name "id")

theorem Attaches.isAttachment
    (attaches : Attaches context block host volume place) :
    IsAttachment block := by
  obtain ⟨name, -, heading⟩ := attaches.heading
  exact ⟨_, heading⟩

/-- An instance contains a volume exactly when it is the one that the volume is attached to. -/
theorem hostInstance?_eq_some_iff
    (wellLinked : context.architecture.WellLinked)
    (member : volume ∈ context.architecture.resources)
    (typed : volume.typeName = "EBSVolume") :
    hostInstance? context volume = some host ↔
      host ∈ context.architecture.resources ∧ host.typeName = "EC2" ∧
        volume ∈ context.children host "EBSVolume" := by
  rw [hostInstance?, Option.filter_eq_some_iff, beq_iff_eq, Context.container?,
    Option.bind_eq_some_iff]
  simp only [Context.resource?_eq_some_iff wellLinked.distinct]
  constructor
  · rintro ⟨⟨id, isParent, hostMember, rfl⟩, isInstance⟩
    have isContent := (wellLinked.bothEnds host hostMember volume member).2
      (List.mem_of_mem_head? isParent)
    exact ⟨hostMember, isInstance,
      (Context.mem_children_iff wellLinked.distinct).2 ⟨member, typed, isContent⟩⟩
  · rintro ⟨hostMember, isInstance, isContent⟩
    have isParent := (wellLinked.bothEnds host hostMember volume member).1
      (Context.id_mem_of_mem_ofType isContent)
    have isFirst : volume.parent? = some host.id := by
      obtain ⟨only, isOnly⟩ := List.length_eq_one_iff.1
        (Nat.le_antisymm (wellLinked.oneParent volume member) (List.length_pos_of_mem isParent))
      rw [isOnly, List.mem_singleton] at isParent
      rw [Resource.parent?, isOnly, isParent, List.head?_cons]
    exact ⟨⟨host.id, isFirst, hostMember, rfl⟩, isInstance⟩

/-- Among what a resource contains a content is found at its place. -/
theorem exists_place
    (distinct : context.architecture.ids.Nodup)
    {typeName : String}
    (isContent : resource ∈ context.children host typeName) :
    ∃ place, (context.children host typeName).findIdx? (·.id == resource.id) = some place ∧
      (context.children host typeName)[place]? = some resource := by
  have found : ((context.children host typeName).findIdx? (·.id == resource.id)).isSome := by
    rw [List.findIdx?_isSome, List.any_eq_true]
    exact ⟨resource, isContent, beq_self_eq_true _⟩
  obtain ⟨place, isPlace⟩ := Option.isSome_iff_exists.1 found
  obtain ⟨inside, sameId, -⟩ := List.findIdx?_eq_some_iff_getElem.1 isPlace
  have isOther := Context.mem_of_mem_children (List.getElem_mem inside)
  have same := List.inj_on_of_nodup_map distinct isOther.1
    (Context.mem_of_mem_children isContent).1 (beq_iff_eq.1 sameId)
  exact ⟨place, isPlace, List.getElem?_eq_some_iff.2 ⟨inside, same⟩⟩

/-- A resource lists each content at one place. -/
theorem place_eq
    (wellLinked : context.architecture.WellLinked)
    (member : host ∈ context.architecture.resources)
    {typeName : String}
    {other : Nat}
    (stands : (context.children host typeName)[place]? = some resource)
    (standsToo : (context.children host typeName)[other]? = some resource) :
    place = other := by
  have once : (context.children host typeName).Nodup :=
    Context.nodup_children (wellLinked.contentsOnce host member)
  exact (List.getElem?_inj (List.getElem?_eq_some_iff.1 stands).1 once).1
    (stands.trans standsToo.symm)

/-- What attaches a volume names the place at which its instance lists it. -/
theorem attaches_of_attachment
    (wellLinked : context.architecture.WellLinked)
    (member : volume ∈ context.architecture.resources)
    (typed : volume.typeName = "EBSVolume")
    (isHost : hostInstance? context volume = some host)
    {name : String}
    (isName : context.localName? volume.id = some name)
    (made : attachment context volume host name = .ok block) :
    ∃ place, Attaches context block host volume place := by
  obtain ⟨hostMember, isInstance, isContent⟩ :=
    (hostInstance?_eq_some_iff wellLinked member typed).1 isHost
  obtain ⟨place, isPlace, stands⟩ := exists_place wellLinked.distinct isContent
  rw [attachment, isPlace] at made
  obtain ⟨own, -, made⟩ := bind_eq_ok_iff.1 made
  obtain ⟨value, refers, made⟩ := bind_eq_ok_iff.1 made
  obtain ⟨kind, hostName, isKind, isHostName, rfl⟩ := refer_eq_ok_iff.1 refers
  rw [isInstance] at isKind
  cases isKind
  cases made
  refine ⟨place, hostMember, isInstance, stands, ⟨name, isName, by simp⟩, ?_, hostName,
    isHostName, ?_⟩
  · rfl
  · rfl

/-- A volume has a block that declares it and, if an instance contains it, one that attaches it. -/
theorem ebsVolume_cases
    {blocks : List Block}
    (made : ebsVolume volume context = .ok blocks) :
    ∃ name declared, context.localName? volume.id = some name ∧
      declared.heading = ("resource", ["aws_ebs_volume", name]) ∧
      ((hostInstance? context volume = none ∧ blocks = [declared]) ∨
        ∃ host attached, hostInstance? context volume = some host ∧
          attachment context volume host name = .ok attached ∧ blocks = [declared, attached]) := by
  rw [ebsVolume] at made
  obtain ⟨name, isName, made⟩ := bind_eq_ok_iff.1 made
  have isOwn := localName_eq_ok_iff.1 isName
  cases isHost : hostInstance? context volume with
  | none =>
      simp only [isHost] at made
      cases made
      exact ⟨name, _, isOwn, by simp, Or.inl ⟨rfl, rfl⟩⟩
  | some host =>
      simp only [isHost] at made
      obtain ⟨zone, -, made⟩ := bind_eq_ok_iff.1 made
      obtain ⟨attached, isAttached, made⟩ := bind_eq_ok_iff.1 made
      cases made
      exact ⟨name, _, isOwn, by simp, Or.inr ⟨host, attached, rfl, isAttached, rfl⟩⟩

/-! ## Attachments in a project -/

/-- Only volumes have blocks that attach. -/
theorem typeName_eq_of_mem_patternsOf
    {typeName : String}
    {pattern : HeadingPattern}
    (isPattern : pattern ∈ patternsOf typeName)
    (attaches : pattern.labels = ["aws_volume_attachment"]) :
    typeName = "EBSVolume" := by
  have noKind : ∀ entry ∈ kinds, entry.2 ≠ "aws_volume_attachment" := by decide
  have ofVolumes : ∀ entry ∈ companions,
      entry.2.labels = ["aws_volume_attachment"] → entry.1 = "EBSVolume" := by decide
  rw [patternsOf, List.mem_append, List.mem_map] at isPattern
  rcases isPattern with ⟨kind, isKind, rfl⟩ | isCompanion
  · have listed := mem_of_lookup_eq_some (Option.mem_toList.1 isKind)
    exact absurd (List.singleton_inj.1 attaches) (noKind _ listed)
  · exact ofVolumes _ (mem_of_lookup_eq_some (Option.mem_toList.1 isCompanion)) attaches

theorem typeName_of_isAttachment
    (mappable : Mappable architecture)
    (member : resource ∈ architecture.resources)
    (isBlock : block ∈ blocksOf architecture resource)
    (isAttachment : IsAttachment block) :
    resource.typeName = "EBSVolume" := by
  obtain ⟨label, isHeading⟩ := isAttachment
  obtain ⟨_, name, _, _, describes⟩ := describes_blocksOf mappable member
  obtain ⟨pattern, isPattern, same⟩ :=
    List.mem_map.1 (describes.headings.subset (List.mem_map_of_mem isBlock))
  have labels : pattern.labels ++ [name ++ pattern.suffix] = ["aws_volume_attachment"] ++ [label] :=
    congrArg Prod.snd (same.trans isHeading)
  exact typeName_eq_of_mem_patternsOf isPattern (List.append_inj' labels rfl).1

theorem ebsVolume_eq_ok
    (mappable : Mappable architecture)
    (member : volume ∈ architecture.resources)
    (typed : volume.typeName = "EBSVolume") :
    ebsVolume volume (contextOf architecture) = .ok (blocksOf architecture volume) := by
  obtain ⟨blocks, mapped⟩ := mappable volume member
  have isBlocks : blocksOf architecture volume = blocks := Registry.blocksOf_eq mapped
  rw [Registry.mapResource, typed] at mapped
  rw [isBlocks]
  exact mapError_eq_ok_iff.1 mapped

/-- Every attachment in a project attaches a volume to the instance that contains it. -/
theorem exists_attaches_of_isAttachment
    (wellLinked : architecture.WellLinked)
    (mappable : Mappable architecture)
    (member : resource ∈ architecture.resources)
    (isBlock : block ∈ blocksOf architecture resource)
    (isAttachment : IsAttachment block) :
    ∃ host place, Attaches (contextOf architecture) block host resource place := by
  have typed := typeName_of_isAttachment mappable member isBlock isAttachment
  obtain ⟨name, declared, isName, isDeclared, cases⟩ :=
    ebsVolume_cases (ebsVolume_eq_ok mappable member typed)
  have notDeclared : block ≠ declared := by
    rintro rfl
    obtain ⟨label, isHeading⟩ := isAttachment
    simp [isDeclared] at isHeading
  rcases cases with ⟨-, only⟩ | ⟨host, attached, isHost, made, both⟩
  · rw [only, List.mem_singleton] at isBlock
    exact absurd isBlock notDeclared
  · rw [both] at isBlock
    obtain rfl := List.mem_singleton.1 ((List.mem_cons.1 isBlock).resolve_left notDeclared)
    obtain ⟨place, attaches⟩ := attaches_of_attachment
      wellLinked member typed isHost isName made
    exact ⟨host, place, attaches⟩

/-- Every volume that an instance contains is attached to it. -/
theorem exists_attaches_of_stands
    (wellLinked : architecture.WellLinked)
    (mappable : Mappable architecture)
    (member : host ∈ architecture.resources)
    (isInstance : host.typeName = "EC2")
    (stands : ((contextOf architecture).children host "EBSVolume")[place]? = some volume) :
    ∃ block ∈ projectBlocks architecture,
      Attaches (contextOf architecture) block host volume place := by
  have isContent := List.mem_of_getElem? stands
  obtain ⟨volumeMember, typed⟩ := Context.mem_of_mem_children isContent
  have isHost := (hostInstance?_eq_some_iff wellLinked
    volumeMember typed).2 ⟨member, isInstance, isContent⟩
  obtain ⟨name, declared, isName, -, ⟨noHost, -⟩ | ⟨other, attached, isOther, made, both⟩⟩ :=
    ebsVolume_cases (ebsVolume_eq_ok mappable volumeMember typed)
  · rw [isHost] at noHost
    contradiction
  · obtain rfl := Option.some.inj (isHost.symm.trans isOther)
    obtain ⟨found, attaches⟩ := attaches_of_attachment
      wellLinked volumeMember typed isHost isName made
    obtain rfl := place_eq wellLinked member attaches.stands
      stands
    have isBlock : attached ∈ blocksOf architecture volume := by simp [both]
    exact ⟨attached, (mem_projectBlocks_iff _).2 (Or.inr ⟨volume, volumeMember, isBlock⟩), attaches⟩

theorem exists_attaches_of_mem_projectBlocks
    (wellLinked : architecture.WellLinked)
    (mappable : Mappable architecture)
    (isBlock : block ∈ projectBlocks architecture)
    (isAttachment : IsAttachment block) :
    ∃ host volume place, Attaches (contextOf architecture) block host volume place := by
  rcases (mem_projectBlocks_iff block).1 isBlock with isFirst | ⟨volume, member, isOwn⟩
  · obtain ⟨label, isHeading⟩ := isAttachment
    have isOne : block.heading ∈ (preamble architecture).map (·.heading) :=
      List.mem_map_of_mem isFirst
    simp [isHeading, headings_preamble, heading_regionPattern] at isOne
  · obtain ⟨host, place, attaches⟩ :=
      exists_attaches_of_isAttachment wellLinked mappable member isOwn isAttachment
    exact ⟨host, volume, place, attaches⟩

/-! ## Clashes -/

/-- Two blocks attach to the same instance under the same device name. -/
structure Clash (first second : Block) : Prop where
  /-- They refer to the same instance. -/
  sameInstance : first.attributes.lookup "instance_id" = second.attributes.lookup "instance_id"
  /-- They name the same device. -/
  sameDevice : first.attributes.lookup "device_name" = second.attributes.lookup "device_name"
  /-- The first one attaches. -/
  first : IsAttachment first
  /-- The second one attaches. -/
  second : IsAttachment second

/-- No two of the blocks attach to the same instance under the same device name. -/
def DevicesApart (blocks : List Block) : Prop :=
  blocks.Pairwise fun first second => ¬Clash first second

theorem Clash.symm
    {other : Block}
    (clash : Clash block other) :
    Clash other block :=
  ⟨clash.sameInstance.symm, clash.sameDevice.symm, clash.second, clash.first⟩

namespace Attaches

variable {other : Block} {otherHost otherVolume : Resource} {otherPlace : Nat}

/-- Blocks that refer to the same instance attach to it. -/
theorem host_eq
    (distinct : architecture.ids.Nodup)
    (attaches : Attaches (contextOf architecture) block host volume place)
    (attachesOther : Attaches (contextOf architecture) other otherHost otherVolume otherPlace)
    (sameInstance : block.attributes.lookup "instance_id" = other.attributes.lookup "instance_id") :
    host = otherHost := by
  obtain ⟨name, isName, isInstance⟩ := attaches.attached
  obtain ⟨otherName, isOther, isOtherInstance⟩ := attachesOther.attached
  rw [isInstance, isOtherInstance] at sameInstance
  cases sameInstance
  exact List.inj_on_of_nodup_map distinct attaches.member attachesOther.member
    (id_eq_of_localName?_eq isName isOther)

/-- The volume at a place of an instance is attached under one heading. -/
theorem heading_eq
    (attaches : Attaches context block host volume place)
    (attachesOther : Attaches context other host otherVolume place) :
    block.heading = other.heading := by
  obtain rfl := Option.some.inj (attaches.stands.symm.trans attachesOther.stands)
  obtain ⟨name, isName, isHeading⟩ := attaches.heading
  obtain ⟨otherName, isOther, isOtherHeading⟩ := attachesOther.heading
  obtain rfl := Option.some.inj (isName.symm.trans isOther)
  rw [isHeading, isOtherHeading]

/-- A block attaches the volume at one place of an instance only. -/
theorem place_eq
    (wellLinked : architecture.WellLinked)
    (attaches : Attaches (contextOf architecture) block host volume place)
    (attachesToo : Attaches (contextOf architecture) block host otherVolume otherPlace) :
    place = otherPlace := by
  obtain ⟨name, isName, isHeading⟩ := attaches.heading
  obtain ⟨otherName, isOther, isOtherHeading⟩ := attachesToo.heading
  have sameName : name = otherName := by
    simpa [isHeading] using isOtherHeading
  rw [← sameName] at isOther
  obtain ⟨volumeMember, -⟩ := Context.mem_of_mem_children (List.mem_of_getElem? attaches.stands)
  obtain ⟨otherMember, -⟩ := Context.mem_of_mem_children (List.mem_of_getElem? attachesToo.stands)
  obtain rfl := List.inj_on_of_nodup_map wellLinked.distinct volumeMember otherMember
    (id_eq_of_localName?_eq isName isOther)
  exact Aws.place_eq wellLinked attaches.member attaches.stands
    attachesToo.stands

/-- Attachments to one instance clash when their places differ by a multiple of the number of
device names. -/
theorem clash_iff
    (attaches : Attaches context block host volume place)
    (attachesOther : Attaches context other host otherVolume otherPlace) :
    Clash block other ↔ place % deviceCount = otherPlace % deviceCount := by
  rw [← deviceName_eq_iff]
  constructor
  · intro clash
    have sameDevice := clash.sameDevice
    rw [attaches.device, attachesOther.device] at sameDevice
    exact AttrValue.text.inj (Option.some.inj sameDevice)
  · intro sameDevice
    obtain ⟨name, isName, isInstance⟩ := attaches.attached
    obtain ⟨otherName, isOther, isOtherInstance⟩ := attachesOther.attached
    obtain rfl := Option.some.inj (isName.symm.trans isOther)
    constructor
    case sameInstance => rw [isInstance, isOtherInstance]
    case sameDevice => rw [attaches.device, attachesOther.device, sameDevice]
    case first => exact attaches.isAttachment
    case second => exact attachesOther.isAttachment

end Attaches

/-- An instance with more volumes than there are device names has two under one name. -/
theorem not_devicesApart
    (wellLinked : architecture.WellLinked)
    (mappable : Mappable architecture)
    (member : host ∈ architecture.resources)
    (isInstance : host.typeName = "EC2")
    (many : deviceCount < ((contextOf architecture).children host "EBSVolume").length) :
    ¬DevicesApart (projectBlocks architecture) := by
  intro apart
  obtain ⟨first, isFirst, attachesFirst⟩ := exists_attaches_of_stands wellLinked mappable member
    isInstance (List.getElem?_eq_getElem (Nat.zero_lt_of_lt many))
  obtain ⟨last, isLast, attachesLast⟩ := exists_attaches_of_stands wellLinked mappable member
    isInstance (List.getElem?_eq_getElem many)
  have different : first ≠ last := by
    rintro rfl
    exact absurd (attachesFirst.place_eq wellLinked attachesLast) (by decide)
  have clash : Clash first last := (attachesFirst.clash_iff attachesLast).2 (by decide)
  have : Std.Symm fun first second => ¬Clash first second := ⟨fun _ _ => mt Clash.symm⟩
  exact List.Pairwise.forall apart isFirst isLast different clash

/-- Two blocks attach volumes that stand at different places of one instance, and share a device
name exactly when these places differ by a multiple of the number of names. -/
inductive ShareByPlace (context : Context) (first second : Block) : Prop
  | intro
      {host volume other : Resource}
      {place otherPlace : Nat}
      (attaches : Attaches context first host volume place)
      (attachesOther : Attaches context second host other otherPlace)
      (different : place ≠ otherPlace)
      (shared : Clash first second ↔ place % deviceCount = otherPlace % deviceCount) :
      ShareByPlace context first second

/-- Any two attachments to one instance share a device name by their places. -/
theorem pairwise_shareByPlace
    (wellLinked : architecture.WellLinked)
    (mappable : Mappable architecture) :
    (projectBlocks architecture).Pairwise fun first second =>
      IsAttachment first → IsAttachment second →
        first.attributes.lookup "instance_id" = second.attributes.lookup "instance_id" →
        ShareByPlace (contextOf architecture) first second := by
  have headings := List.pairwise_map.1
    (nodup_headings_projectBlocks wellLinked.distinct mappable)
  refine headings.imp_of_mem ?_
  intro first second isFirst isSecond differentHeadings attach attachToo sameInstance
  obtain ⟨host, volume, place, attaches⟩ :=
    exists_attaches_of_mem_projectBlocks wellLinked mappable isFirst attach
  obtain ⟨otherHost, other, otherPlace, attachesOther⟩ :=
    exists_attaches_of_mem_projectBlocks wellLinked mappable isSecond attachToo
  obtain rfl := attaches.host_eq wellLinked.distinct attachesOther sameInstance
  have different : place ≠ otherPlace := by
    rintro rfl
    exact differentHeadings (attaches.heading_eq attachesOther)
  exact .intro attaches attachesOther different (attaches.clash_iff attachesOther)

/-- Attachments do not clash exactly when no instance has more volumes than there are device
names. -/
theorem devicesApart_iff
    (wellLinked : architecture.WellLinked)
    (mappable : Mappable architecture) :
    DevicesApart (projectBlocks architecture) ↔
      ∀ host ∈ architecture.resources, host.typeName = "EC2" →
        ((contextOf architecture).children host "EBSVolume").length ≤ deviceCount := by
  constructor
  · intro apart host member isInstance
    by_contra many
    exact not_devicesApart wellLinked mappable member isInstance (Nat.lt_of_not_le many) apart
  · intro few
    refine (pairwise_shareByPlace wellLinked mappable).imp ?_
    intro first second share clash
    obtain @⟨host, volume, other, place, otherPlace, attaches, attachesOther, different, shared⟩ :=
      share clash.first clash.second clash.sameInstance
    have atMost := few host attaches.member attaches.typed
    have inside := (List.getElem?_eq_some_iff.1 attaches.stands).1
    have otherInside := (List.getElem?_eq_some_iff.1 attachesOther.stands).1
    have samePlace := shared.1 clash
    rw [Nat.mod_eq_of_lt (inside.trans_le atMost),
      Nat.mod_eq_of_lt (otherInside.trans_le atMost)] at samePlace
    exact different samePlace

end CloudPlan.Terraform.Aws
