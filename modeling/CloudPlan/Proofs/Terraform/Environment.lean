import CloudPlan.Proofs.Code.Attributes
import CloudPlan.Proofs.Code.LocalNames
import CloudPlan.Proofs.Terraform.Mapping

/-!
# The environment of a function

A function is told about every bucket, queue, topic and table that it depends on.  The keys
of what it is told are the identifiers of these in capitals, with ends of which none is an
end of another one.  So a key tells whom it is about, and nothing that a function is told
is overwritten.
-/

namespace CloudPlan.Terraform.Aws

open Code
open Code.Identifier (sanitize)

variable {context : Context} {target : Resource} {entry : String × AttrValue}

/-- What a function is told about resources of a type: the end of the key, the kind under which
the resource is declared, and the field that the function needs. -/
inductive Announces : (typeName ending kind field : String) → Prop
  | bucket : Announces "S3" "BUCKET" "aws_s3_bucket" "bucket"
  | queue : Announces "SQS" "QUEUE_URL" "aws_sqs_queue" "url"
  | topic : Announces "SNS" "TOPIC_ARN" "aws_sns_topic" "arn"
  | table : Announces "DynamoDB" "TABLE_NAME" "aws_dynamodb_table" "name"

/-- An entry of an environment tells about a resource: its key is the identifier in capitals with
the end that belongs to the type, and its value refers to the resource. -/
inductive Tells (context : Context) (target : Resource) : String × AttrValue → Prop
  | intro
      {ending kind field name : String}
      (announces : Announces target.typeName ending kind field)
      (isName : context.localName? target.id = some name) :
      Tells context target (Text.upper name ++ "_" ++ ending, .ofResource kind name field)

/-! ## What is told about one resource -/

theorem announces_iff
    {typeName ending kind field : String} :
    Announces typeName ending kind field ↔
      announcements.lookup typeName = some (ending, field) ∧ kind? typeName = some kind := by
  constructor
  · intro announces
    cases announces <;> exact ⟨rfl, rfl⟩
  · rintro ⟨isListed, isKind⟩
    have listed := mem_of_lookup_eq_some isListed
    simp only [announcements, List.mem_cons, Prod.mk.injEq, List.not_mem_nil, or_false] at listed
    rcases listed with ⟨rfl, rfl, rfl⟩ | ⟨rfl, rfl, rfl⟩ | ⟨rfl, rfl, rfl⟩ | ⟨rfl, rfl, rfl⟩ <;>
      cases isKind
    · exact .bucket
    · exact .queue
    · exact .topic
    · exact .table

theorem exists_announces_iff
    (typeName : String) :
    (∃ ending kind field, Announces typeName ending kind field) ↔
      typeName ∈ ["S3", "SQS", "SNS", "DynamoDB"] := by
  constructor
  · rintro ⟨ending, kind, field, announces⟩
    cases announces <;> decide
  · intro isListed
    simp only [List.mem_cons, List.not_mem_nil, or_false] at isListed
    rcases isListed with rfl | rfl | rfl | rfl
    · exact ⟨_, _, _, .bucket⟩
    · exact ⟨_, _, _, .queue⟩
    · exact ⟨_, _, _, .topic⟩
    · exact ⟨_, _, _, .table⟩

/-- No end of a key, with the underscore in front of it, is an end of another one. -/
theorem Announces.ending_eq
    {typeName ending kind field otherType otherEnding otherKind otherField : String}
    (announces : Announces typeName ending kind field)
    (other : Announces otherType otherEnding otherKind otherField)
    (isSuffix : ("_" ++ ending).toList <:+ ("_" ++ otherEnding).toList) :
    ending = otherEnding := by
  have apart : ∀ first ∈ announcements, ∀ second ∈ announcements,
      ("_" ++ first.2.1).toList <:+ ("_" ++ second.2.1).toList → first.2.1 = second.2.1 := by
    decide +kernel
  exact apart _ (mem_of_lookup_eq_some (announces_iff.1 announces).1) _
    (mem_of_lookup_eq_some (announces_iff.1 other).1) isSuffix

theorem announce?_eq_ok_some_iff :
    announce? context target = .ok (some entry) ↔ Tells context target entry := by
  rw [announce?]
  constructor
  · intro announced
    cases isListed : announcements.lookup target.typeName with
    | none => simp [isListed] at announced
    | some found =>
        simp only [isListed] at announced
        obtain ⟨name, isName, announced⟩ := bind_eq_ok_iff.1 announced
        obtain ⟨value, refers, isEntry⟩ := bind_eq_ok_iff.1 announced
        obtain ⟨kind, other, isKind, isOther, rfl⟩ := refer_eq_ok_iff.1 refers
        obtain rfl := Option.some.inj ((localName_eq_ok_iff.1 isName).symm.trans isOther)
        cases isEntry
        exact .intro (announces_iff.2 ⟨isListed, isKind⟩) isOther
  · rintro ⟨announces, isName⟩
    obtain ⟨isListed, isKind⟩ := announces_iff.1 announces
    simp only [isListed, localName_eq isName, refer_eq isKind isName, ok_bind]
    rfl

/-- Where identifiers have the usual form, a key tells whom it is about. -/
theorem Tells.id_eq
    {codeWriter : Writer}
    (usual : codeWriter.identifier = sanitize)
    {architecture : Architecture}
    {other : Resource}
    {otherEntry : String × AttrValue}
    (tells : Tells (Registry.context codeWriter architecture) target entry)
    (tellsOther : Tells (Registry.context codeWriter architecture) other otherEntry)
    (sameKey : entry.1 = otherEntry.1) :
    target.id = other.id := by
  obtain @⟨ending, kind, field, name, announces, isName⟩ := tells
  obtain @⟨otherEnding, otherKind, otherField, otherName, announcesOther, isOther⟩ := tellsOther
  have texts : (Text.upper name).toList ++ ("_" ++ ending).toList =
      (Text.upper otherName).toList ++ ("_" ++ otherEnding).toList := by
    simpa only [String.append_assoc, String.toList_append] using congrArg String.toList sameKey
  have sameEnding : ending = otherEnding := by
    rcases List.suffix_or_suffix_of_suffix (texts ▸ List.suffix_append _ _)
      (List.suffix_append _ ("_" ++ otherEnding).toList) with shorter | longer
    · exact announces.ending_eq announcesOther shorter
    · exact (announcesOther.ending_eq announces longer).symm
  subst sameEnding
  have sameCapitals := String.toList_inj.1 (List.append_cancel_right texts)
  have form := isIdentifier_of_localName? usual isName
  have otherForm := isIdentifier_of_localName? usual isOther
  have sameName : name = otherName := by
    rw [← form.lowerAscii_upper, ← otherForm.lowerAscii_upper, sameCapitals]
  rw [sameName] at isName
  exact id_eq_of_localName?_eq isName isOther

/-! ## The whole environment -/

/-- What a function is told about the resource with an id, where that can be said. -/
def announcedOf (context : Context) (id : String) : Option (String × AttrValue) :=
  (context.resource? id).bind fun target => (announce? context target).toOption.join

/-- The resource with an id, if functions are told about resources of its type. -/
def announceable? (context : Context) (id : String) : Option Resource :=
  (context.resource? id).filter (·.typeName ∈ ["S3", "SQS", "SNS", "DynamoDB"])

theorem announcedOf_eq_some_iff
    {id : String} :
    announcedOf context id = some entry ↔
      ∃ target, context.resource? id = some target ∧ Tells context target entry := by
  simp only [announcedOf, Option.bind_eq_some_iff, Option.join_eq_some_iff, toOption_eq_some_iff,
    announce?_eq_ok_some_iff]

theorem announceable?_eq_some_iff
    {id : String} :
    announceable? context id = some target ↔
      context.resource? id = some target ∧
        target.typeName ∈ ["S3", "SQS", "SNS", "DynamoDB"] := by
  rw [announceable?, Option.filter_eq_some_iff, decide_eq_true_eq]

theorem nodup_announceable
    {ids : List String}
    (apart : ids.Nodup) :
    (ids.filterMap (announceable? context)).Nodup := by
  have filtered : ids.filterMap (announceable? context) =
      (ids.filterMap context.resource?).filter (·.typeName ∈ ["S3", "SQS", "SNS", "DynamoDB"]) :=
    List.filter_filterMap.symm
  rw [filtered]
  exact (Context.nodup_filterMap_resource? apart).filter _

theorem mem_announceable_iff
    (distinct : context.architecture.ids.Nodup)
    {ids : List String} :
    target ∈ ids.filterMap (announceable? context) ↔
      target ∈ context.architecture.resources ∧ target.id ∈ ids ∧
        target.typeName ∈ ["S3", "SQS", "SNS", "DynamoDB"] := by
  simp only [List.mem_filterMap, announceable?_eq_some_iff,
    Context.resource?_eq_some_iff distinct]
  constructor
  · rintro ⟨_, isListed, ⟨member, rfl⟩, typed⟩
    exact ⟨member, isListed, typed⟩
  · rintro ⟨member, isListed, typed⟩
    exact ⟨target.id, isListed, ⟨member, rfl⟩, typed⟩

theorem environment_eq
    {function : Resource}
    {given : Attributes}
    (succeeds : environment context function = .ok given) :
    given = Attributes.ofList (function.targets.filterMap (announcedOf context)) := by
  obtain ⟨told, isTold, isGiven⟩ := bind_eq_ok_iff.1 succeeds
  cases isGiven
  rw [filterMap_id_of_mapM_eq_ok isTold, List.filterMap_filterMap]
  rfl

/-- Something is told exactly about what functions are told about. -/
theorem rel_announceable?_announcedOf
    (named : context.Named)
    (id : String) :
    Option.Rel (Tells context) (announceable? context id) (announcedOf context id) := by
  cases isFound : context.resource? id with
  | none =>
      rw [announceable?, announcedOf, isFound]
      exact .none
  | some target =>
      by_cases isAnnounced : target.typeName ∈ ["S3", "SQS", "SNS", "DynamoDB"]
      · obtain ⟨ending, kind, field, announces⟩ := (exists_announces_iff _).2 isAnnounced
        obtain ⟨name, isName⟩ := named target (Context.mem_of_resource? isFound)
        have tells := Tells.intro announces isName
        rw [announceable?_eq_some_iff.2 ⟨isFound, isAnnounced⟩,
          announcedOf_eq_some_iff.2 ⟨target, isFound, tells⟩]
        exact .some tells
      · have noTarget : announceable? context id = none := by
          simp [announceable?, isFound, Option.filter, isAnnounced]
        have nothing : announcedOf context id = none := by
          rw [Option.eq_none_iff_forall_ne_some]
          intro entry isEntry
          obtain ⟨other, isOther, announces, -⟩ := announcedOf_eq_some_iff.1 isEntry
          obtain rfl := Option.some.inj (isFound.symm.trans isOther)
          exact isAnnounced ((exists_announces_iff _).1 ⟨_, _, _, announces⟩)
        rw [noTarget, nothing]
        exact .none

/-- What is told under different ids is told under different keys. -/
theorem ownKeys_announcedOf
    {codeWriter : Writer}
    (usual : codeWriter.identifier = sanitize)
    (architecture : Architecture) :
    Attributes.OwnKeys (announcedOf (Registry.context codeWriter architecture)) := by
  intro first second entry other isFirst isSecond sameKey
  obtain ⟨target, isTarget, tells⟩ := announcedOf_eq_some_iff.1 isFirst
  obtain ⟨otherTarget, isOther, tellsOther⟩ := announcedOf_eq_some_iff.1 isSecond
  have sameId := tells.id_eq usual tellsOther sameKey
  rwa [Context.id_of_resource? isTarget, Context.id_of_resource? isOther] at sameId

/-- A function for which a block is made is nested nothing but what it is told. -/
theorem exists_environment_of_lambdaFunction
    {function : Resource}
    {blocks : List Block}
    (succeeds : lambdaFunction function context = .ok blocks) :
    ∃ block given, environment context function = .ok given ∧ blocks = [block] ∧
      block.blocks =
        if given.isEmpty then []
        else [{ type := "environment", attributes := [("variables", .map given)] }] := by
  obtain ⟨name, -, succeeds⟩ := bind_eq_ok_iff.1 succeeds
  obtain ⟨role, -, succeeds⟩ := bind_eq_ok_iff.1 succeeds
  obtain ⟨given, isGiven, succeeds⟩ := bind_eq_ok_iff.1 succeeds
  dsimp only at succeeds
  split at succeeds
  next isEmpty =>
    cases succeeds
    exact ⟨_, given, isGiven, rfl, (if_pos isEmpty).symm⟩
  next notEmpty =>
    cases succeeds
    exact ⟨_, given, isGiven, rfl, (if_neg notEmpty).symm⟩

/-- When the block of a function is made, its environment has one variable for each bucket, queue,
topic and table that the function depends on, however often it does, and no other variable.  The
variable refers to the resource, and no two variables share a key.  Without variables there is no
environment. -/
theorem function_is_told_once_of_each
    {codeWriter : Writer}
    (usual : codeWriter.identifier = sanitize)
    {architecture : Architecture}
    (distinct : architecture.ids.Nodup)
    {function : Resource}
    {blocks : List Block}
    (succeeds : lambdaFunction function (Registry.context codeWriter architecture) = .ok blocks) :
    ∃ block told given,
      blocks = [block] ∧
      (block.blocks =
        if given.isEmpty then []
        else [{ type := "environment", attributes := [("variables", .map given)] }]) ∧
      told.Nodup ∧
      (∀ target, target ∈ told ↔
        target ∈ architecture.resources ∧ target.id ∈ function.targets ∧
          target.typeName ∈ ["S3", "SQS", "SNS", "DynamoDB"]) ∧
      (given.map (·.1)).Nodup ∧
      List.Forall₂ (Tells (Registry.context codeWriter architecture)) told given := by
  obtain ⟨block, given, isGiven, isBlock, nested⟩ :=
    exists_environment_of_lambdaFunction succeeds
  have own := ownKeys_announcedOf usual architecture
  have apart := nodup_eraseDups function.targets
  have alike := forall₂_filterMap fun id (_ : id ∈ function.targets.eraseDups) =>
    rel_announceable?_announcedOf (named_context codeWriter architecture) id
  obtain rfl := (environment_eq isGiven).trans (own.ofList_filterMap function.targets)
  refine ⟨block, _, _, isBlock, nested, nodup_announceable apart, ?_, own.nodup_keys apart, alike⟩
  intro target
  rw [mem_announceable_iff distinct, List.mem_eraseDups]
  rfl

/-- A function that depends on two buckets of one name, on one of them twice, and on a queue that
is named like a variable for a bucket. -/
def archiver : Resource where
  id := "archiver"
  typeName := "Lambda"
  name := "archiver"
  config := [("role_arn", .text "arn:aws:iam::1:role/archiver")]
  dependsOn := [
    { target := "raw", type := .uses, origin := .explicit },
    { target := "kept", type := .uses, origin := .explicit },
    { target := "requests", type := .uses, origin := .explicit },
    { target := "raw", type := .uses, origin := .hidden }]

/-- The function with all that it depends on. -/
def archive : Architecture where
  provider := .aws
  region := "eu-west-1"
  resources := [
    { id := "raw", typeName := "S3", name := "Logs" },
    { id := "kept", typeName := "S3", name := "logs" },
    { id := "requests", typeName := "SQS", name := "logs bucket" },
    archiver]

/-- The function is told once of each bucket, and of the queue under a key of its own. -/
theorem archiver_is_told_once_of_each :
    writer.identifier = sanitize ∧ archive.ids.Nodup ∧
      (environment (Registry.context writer archive) archiver).toOption.map (·.map (·.1)) =
        some ["LOGS_BUCKET", "LOGS_2_BUCKET", "LOGS_BUCKET_QUEUE_URL"] ∧
      ∃ block told given,
        lambdaFunction archiver (Registry.context writer archive) = .ok [block] ∧
        block.blocks = [{ type := "environment", attributes := [("variables", .map given)] }] ∧
        told.Nodup ∧ archive.resources.take 3 ⊆ told ∧
        (given.map (·.1)).Nodup ∧
        List.Forall₂ (Tells (Registry.context writer archive)) told given := by
  have usual : writer.identifier = sanitize := by simp only [writer]
  have distinct : archive.ids.Nodup := by decide
  have isMade : (lambdaFunction archiver (Registry.context writer archive)).toOption.isSome := by
    decide +kernel
  obtain ⟨blocks, areMade⟩ := Option.isSome_iff_exists.1 isMade
  have succeeds := toOption_eq_some_iff.1 areMade
  obtain ⟨block, told, given, rfl, nested, apart, isTold, keysApart, tells⟩ :=
    function_is_told_once_of_each usual distinct succeeds
  have areTold : archive.resources.take 3 ⊆ told := by
    intro target isOne
    rw [isTold]
    simp only [archive, List.take_succ_cons, List.take_zero, List.mem_cons, List.not_mem_nil,
      or_false] at isOne
    rcases isOne with rfl | rfl | rfl <;> simp [archive, archiver, Resource.targets]
  have notEmpty : given.isEmpty = false := by
    cases tells with
    | nil => simp [archive] at areTold
    | cons _ _ => rfl
  rw [notEmpty] at nested
  exact ⟨usual, distinct, by decide +kernel, block, told, given, succeeds, nested, apart,
    areTold, keysApart, tells⟩

end CloudPlan.Terraform.Aws
