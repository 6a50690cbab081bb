import CloudPlan.Proofs.Code.Surroundings
import Mathlib.Data.List.Perm.Subperm

/-!
# The way up

The way up from a resource leads over its container to the container of that one and so
on.  It ends where a resource names no container or one that is not there, and it does not
end where containment runs in a circle.  The first resource of a type on the way stands
there before any resource has come twice, so the search for it need not go further than there
are resources.
-/

namespace CloudPlan.Code.Context

variable {context : Context} {resource parent found : Resource} {typeName : String}

/-- What stands at a place of the way up from a resource; its container stands at the first. -/
def above? (context : Context) (resource : Resource) : Nat → Option Resource
  | 0 => context.container? resource
  | place + 1 => (above? context resource place).bind context.container?

/-- A resource is the first one of a type on the way up from another one. -/
structure IsFirstAbove (context : Context) (resource : Resource) (typeName : String)
    (place : Nat) (found : Resource) : Prop where
  /-- It stands on the way. -/
  stands : context.above? resource place = some found
  /-- It is of the type. -/
  typed : found.typeName = typeName
  /-- What stands in front of it is not. -/
  first : ∀ earlier < place, ∀ other,
    context.above? resource earlier = some other → other.typeName ≠ typeName

/-! ## Parts of the way -/

theorem mem_of_above?
    {place : Nat}
    (stands : context.above? resource place = some found) :
    found ∈ context.architecture.resources := by
  cases place with
  | zero => exact mem_of_container? stands
  | succ place =>
      obtain ⟨below, _, isContainer⟩ := Option.bind_eq_some_iff.1 stands
      exact mem_of_container? isContainer

/-- Behind the container the way is that of the container. -/
theorem above?_succ_of_container?
    (isContainer : context.container? resource = some parent)
    (place : Nat) :
    context.above? resource (place + 1) = context.above? parent place := by
  induction place with
  | zero => simp [above?, isContainer]
  | succ place inductionHypothesis => rw [above?, inductionHypothesis, above?]

theorem above?_of_no_container?
    (atTop : context.container? resource = none)
    (place : Nat) :
    context.above? resource place = none := by
  induction place with
  | zero => exact atTop
  | succ place inductionHypothesis => rw [above?, inductionHypothesis, Option.bind_none]

/-- Behind whatever stands on the way, the way is that of what stands there. -/
theorem above?_add
    {place : Nat}
    (stands : context.above? resource place = some found)
    (more : Nat) :
    context.above? resource (place + 1 + more) = context.above? found more := by
  induction more with
  | zero => simp [above?, stands]
  | succ more inductionHypothesis => rw [← Nat.add_assoc, above?, inductionHypothesis, above?]

/-- The way is not over before a place at which something stands. -/
theorem exists_above?_of_le
    {place earlier : Nat}
    (stands : context.above? resource place = some found)
    (notLater : earlier ≤ place) :
    ∃ other, context.above? resource earlier = some other := by
  induction place generalizing found with
  | zero => exact ⟨found, Nat.le_zero.1 notLater ▸ stands⟩
  | succ place inductionHypothesis =>
      rcases Nat.le_succ_iff.1 notLater with before | rfl
      · obtain ⟨below, standsBelow, _⟩ := Option.bind_eq_some_iff.1 stands
        exact inductionHypothesis standsBelow before
      · exact ⟨found, stands⟩

/-! ## The first resource of a type -/

/-- Something of a type on the way makes something the first one of the type. -/
theorem exists_isFirstAbove
    {place : Nat}
    (stands : context.above? resource place = some found)
    (typed : found.typeName = typeName) :
    ∃ first member, context.IsFirstAbove resource typeName first member := by
  classical
  have onTheWay : ∃ place member, context.above? resource place = some member ∧
      member.typeName = typeName := ⟨place, found, stands, typed⟩
  obtain ⟨member, isFirst, ofType⟩ := Nat.find_spec onTheWay
  refine ⟨Nat.find onTheWay, member, isFirst, ofType, ?_⟩
  intro earlier before other standsEarlier again
  exact Nat.find_min onTheWay before ⟨other, standsEarlier, again⟩

/-- Up to the first resource of a type nothing stands twice on the way: what stands twice is
followed by the same both times. -/
theorem IsFirstAbove.apart
    {place left right : Nat}
    (isFirst : context.IsFirstAbove resource typeName place found)
    (before : left < right)
    (notLater : right ≤ place) :
    context.above? resource left ≠ context.above? resource right := by
  intro same
  obtain ⟨member, standsRight⟩ := exists_above?_of_le isFirst.stands notLater
  have standsLeft : context.above? resource left = some member := same.trans standsRight
  by_cases isLast : right = place
  · -- What is found would already have stood further down.
    have again : member = found := by
      rw [isLast, isFirst.stands] at standsRight
      exact (Option.some.inj standsRight).symm
    exact isFirst.first left (isLast ▸ before) member standsLeft (again ▸ isFirst.typed)
  · obtain ⟨more, isPlace⟩ : ∃ more, place = right + 1 + more :=
      Nat.exists_eq_add_of_le (Nat.succ_le_of_lt (lt_of_le_of_ne notLater isLast))
    have foundEarlier : context.above? resource (left + 1 + more) = some found := by
      rw [above?_add standsLeft, ← above?_add standsRight, ← isPlace, isFirst.stands]
    exact isFirst.first (left + 1 + more) (by omega) found foundEarlier isFirst.typed

/-- The first resource of a type stands at one of as many places as there are resources. -/
theorem IsFirstAbove.lt_length
    {place : Nat}
    (isFirst : context.IsFirstAbove resource typeName place found) :
    place < context.architecture.resources.length := by
  let way := (List.range (place + 1)).map (context.above? resource)
  have apart : way.Nodup := by
    refine List.nodup_range.map_on ?_
    intro left inLeft right inRight same
    rw [List.mem_range, Nat.lt_succ_iff] at inLeft inRight
    rcases Nat.lt_trichotomy left right with before | equal | behind
    · exact absurd same (isFirst.apart before inRight)
    · exact equal
    · exact absurd same.symm (isFirst.apart behind inLeft)
  have among : way ⊆ context.architecture.resources.map some := by
    intro member onTheWay
    obtain ⟨earlier, inRange, rfl⟩ := List.mem_map.1 onTheWay
    rw [List.mem_range, Nat.lt_succ_iff] at inRange
    obtain ⟨other, stands⟩ := exists_above?_of_le isFirst.stands inRange
    rw [stands]
    exact List.mem_map_of_mem (mem_of_above? stands)
  have fits := (apart.subperm among).length_le
  simp only [way, List.length_map, List.length_range] at fits
  exact fits

/-! ## The search -/

/-- The container is the first resource of a type exactly when it is of the type. -/
theorem isFirstAbove_zero_iff
    (isContainer : context.container? resource = some parent) :
    context.IsFirstAbove resource typeName 0 found ↔
      parent = found ∧ parent.typeName = typeName := by
  have atFirst : context.above? resource 0 = some parent := isContainer
  constructor
  · intro isFirst
    obtain rfl : parent = found := Option.some.inj (atFirst.symm.trans isFirst.stands)
    exact ⟨rfl, isFirst.typed⟩
  · rintro ⟨rfl, typed⟩
    exact ⟨atFirst, typed, by simp⟩

/-- What stands further up is the first resource of a type exactly when the container is not of the
type and it is the first one on the way up from the container. -/
theorem isFirstAbove_succ_iff
    (isContainer : context.container? resource = some parent)
    {place : Nat} :
    context.IsFirstAbove resource typeName (place + 1) found ↔
      parent.typeName ≠ typeName ∧ context.IsFirstAbove parent typeName place found := by
  have atFirst : context.above? resource 0 = some parent := isContainer
  have shift := above?_succ_of_container? isContainer
  constructor
  · intro isFirst
    refine ⟨isFirst.first 0 (Nat.succ_pos place) parent atFirst,
      (shift place).symm.trans isFirst.stands, isFirst.typed, ?_⟩
    intro earlier before other stands
    exact isFirst.first (earlier + 1) (Nat.succ_lt_succ before) other ((shift earlier).trans stands)
  · rintro ⟨otherType, stands, typed, first⟩
    refine ⟨(shift place).trans stands, typed, ?_⟩
    intro earlier before other standsEarlier
    cases earlier with
    | zero =>
        obtain rfl : parent = other := Option.some.inj (atFirst.symm.trans standsEarlier)
        exact otherType
    | succ earlier =>
        exact first earlier (Nat.lt_of_succ_lt_succ before) other
          ((shift earlier).symm.trans standsEarlier)

/-- A search of so many steps sees as many places of the way. -/
theorem ancestorWithin_eq_some_iff
    {steps : Nat} :
    context.ancestorWithin typeName steps resource = some found ↔
      ∃ place < steps, context.IsFirstAbove resource typeName place found := by
  induction steps generalizing resource with
  | zero => simp [ancestorWithin]
  | succ steps inductionHypothesis =>
      rw [ancestorWithin, Nat.exists_lt_succ_left]
      cases isContainer : context.container? resource with
      | none =>
          have nothing (place : Nat) : ¬context.IsFirstAbove resource typeName place found := by
            intro isFirst
            have ended := above?_of_no_container? isContainer place
            rw [isFirst.stands] at ended
            contradiction
          simp [nothing]
      | some parent =>
          simp only [isFirstAbove_zero_iff isContainer, isFirstAbove_succ_iff isContainer]
          by_cases typed : parent.typeName = typeName
          · simp [typed]
          · simp [typed, inductionHypothesis]

/-- The nearest resource of a type that contains another one is found, however long the way up is
and also where it runs in a circle.  None is found only where none stands on the way. -/
theorem nearest_container_is_found
    (context : Context)
    (resource : Resource)
    (typeName : String) :
    (∀ found, context.ancestor? resource typeName = some found ↔
      ∃ place, context.IsFirstAbove resource typeName place found) ∧
    (context.ancestor? resource typeName = none ↔
      ∀ place member, context.above? resource place = some member →
        member.typeName ≠ typeName) := by
  have finds (found : Resource) : context.ancestor? resource typeName = some found ↔
      ∃ place, context.IsFirstAbove resource typeName place found := by
    rw [ancestor?, ancestorWithin_eq_some_iff]
    constructor
    · rintro ⟨place, _, isFirst⟩
      exact ⟨place, isFirst⟩
    · rintro ⟨place, isFirst⟩
      exact ⟨place, Nat.lt_succ_of_lt isFirst.lt_length, isFirst⟩
  refine ⟨finds, ?_⟩
  simp only [Option.eq_none_iff_forall_ne_some, ne_eq, finds]
  constructor
  · intro nothing place member stands typed
    obtain ⟨first, found, isFirst⟩ := exists_isFirstAbove stands typed
    exact nothing found ⟨first, isFirst⟩
  · rintro nothing found ⟨place, isFirst⟩
    exact nothing place found isFirst.stands isFirst.typed

/-- Three containers, each in the next one and the last in the first, with a function in one of
them. -/
def carousel : Context where
  architecture := {
    provider := .aws
    region := ""
    resources := [
      { Resource.ofType "fn" "Lambda" with parents := ["east"] },
      { Resource.ofType "east" "Subnet" with parents := ["west"] },
      { Resource.ofType "west" "Subnet" with parents := ["net"] },
      { Resource.ofType "net" "VPC" with parents := ["east"] }] }
  names := []

/-- The way up from the function never ends, and the search for a type that is not on it does. -/
theorem nearest_container_on_carousel :
    ∃ function network,
      carousel.resource? "fn" = some function ∧ carousel.resource? "net" = some network ∧
      (∃ place, carousel.IsFirstAbove function "VPC" place network) ∧
      carousel.above? function 5 = some network ∧
      ∀ place member, carousel.above? function place = some member → member.typeName ≠ "RDS" := by
  refine ⟨_, _, rfl, rfl, ?_, rfl, ?_⟩
  · exact ((nearest_container_is_found carousel _ "VPC").1 _).1 rfl
  · exact (nearest_container_is_found carousel _ "RDS").2.1 rfl

end CloudPlan.Code.Context
