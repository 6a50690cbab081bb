import Mathlib.Data.List.DropRight
import Mathlib.Data.List.Perm.Basic
import Mathlib.Data.List.Nodup

/-!
# Lists without repetitions

Erasing repetitions leaves a list without any, and such a list of keys divides what has the
keys.  A run of members with a property ends where the property fails.  In a list without
repetitions one member stands before another when the two, in this order, are a sublist.
-/

namespace CloudPlan

/-! ## Repetitions -/

/-- Erasing repetitions leaves none. -/
theorem nodup_eraseDups
    {α : Type}
    [DecidableEq α]
    (members : List α) :
    members.eraseDups.Nodup := by
  match members with
  | [] => exact List.nodup_nil
  | first :: rest =>
      rw [List.eraseDups_cons, List.nodup_cons]
      refine ⟨?_, nodup_eraseDups (rest.filter fun other => !other == first)⟩
      rw [List.mem_eraseDups]
      intro member
      simpa using List.of_mem_filter member
termination_by members.length
decreasing_by
  exact Nat.lt_succ_of_le (List.length_filter_le _ _)

theorem eraseDups_concat
    {α : Type}
    [DecidableEq α]
    (members : List α)
    (last : α) :
    (members ++ [last]).eraseDups =
      if last ∈ members then members.eraseDups else members.eraseDups ++ [last] := by
  rw [List.eraseDups_append]
  split
  next again => simp [List.removeAll, again]
  next isNew => simp [List.removeAll, isNew, List.eraseDups_cons]

/-- Where every member has a key, taking the members of each key in turn takes all of them. -/
theorem flatMap_filter_perm
    {α κ : Type}
    [DecidableEq κ]
    {key : α → κ}
    {keys : List κ}
    {members : List α}
    (apart : keys.Nodup)
    (covered : ∀ member ∈ members, key member ∈ keys) :
    (keys.flatMap fun wanted => members.filter (key · = wanted)).Perm members := by
  induction keys generalizing members with
  | nil =>
      have none : members = [] :=
        List.eq_nil_iff_forall_not_mem.2 fun member isMember =>
          List.not_mem_nil (covered member isMember)
      rw [none]
      rfl
  | cons first rest inductionHypothesis =>
      obtain ⟨absent, restApart⟩ := List.nodup_cons.1 apart
      have others : (rest.flatMap fun wanted => members.filter (key · = wanted)) =
          rest.flatMap fun wanted =>
            (members.filter fun member => !decide (key member = first)).filter
              (key · = wanted) := by
        refine List.flatMap_congr fun wanted isWanted => ?_
        rw [List.filter_filter]
        apply List.filter_congr
        intro member _
        have different : wanted ≠ first := fun same => absent (same ▸ isWanted)
        by_cases isWantedKey : key member = wanted
        · simp [isWantedKey, different]
        · simp [isWantedKey]
      have restCovered : ∀ member ∈ members.filter fun member => !decide (key member = first),
          key member ∈ rest := by
        intro member isOther
        obtain ⟨isMember, notFirst⟩ := List.mem_filter.1 isOther
        exact (List.mem_cons.1 (covered member isMember)).resolve_left (by simpa using notFirst)
      rw [List.flatMap_cons, others]
      exact ((inductionHypothesis restApart restCovered).append_left _).trans
        (List.filter_append_perm _ members)

/-- What a single member gives is given once where that member is listed, and not otherwise. -/
theorem flatMap_ite_eq
    {α β : Type}
    [DecidableEq α]
    {members : List α}
    (apart : members.Nodup)
    (giver : α)
    (given : List β) :
    (members.flatMap fun member => if member = giver then given else []) =
      if giver ∈ members then given else [] := by
  induction members with
  | nil => rfl
  | cons head rest inductionHypothesis =>
      obtain ⟨absent, restApart⟩ := List.nodup_cons.1 apart
      rw [List.flatMap_cons, inductionHypothesis restApart]
      by_cases isGiver : head = giver
      · subst isGiver
        simp [absent]
      · simp [isGiver, Ne.symm isGiver]

/-- What members give in two ways is related one by one where each member gives related things
or nothing either way. -/
theorem forall₂_filterMap
    {α β γ : Type}
    {related : β → γ → Prop}
    {gives : α → Option β}
    {returns : α → Option γ}
    {members : List α}
    (agree : ∀ member ∈ members, Option.Rel related (gives member) (returns member)) :
    List.Forall₂ related (members.filterMap gives) (members.filterMap returns) := by
  induction members with
  | nil => exact .nil
  | cons first rest inductionHypothesis =>
      obtain ⟨firstAgrees, restAgree⟩ := List.forall_mem_cons.1 agree
      have restRelated := inductionHypothesis restAgree
      rw [List.filterMap_cons, List.filterMap_cons]
      generalize gives first = given, returns first = returned at firstAgrees
      cases firstAgrees with
      | some isRelated => exact .cons isRelated restRelated
      | none => exact restRelated

/-! ## Runs -/

section Runs

variable {α : Type} {holds : α → Bool} {run rest : List α}

/-- A run that is followed by a member without the property, or by nothing, is what is taken. -/
theorem takeWhile_append_stop
    (inside : ∀ member ∈ run, holds member = true)
    (outside : ∀ member ∈ rest.head?, holds member = false) :
    (run ++ rest).takeWhile holds = run := by
  rw [List.takeWhile_append_of_pos inside]
  cases rest with
  | nil => simp
  | cons first more => simp [outside first rfl]

/-- A run that is followed by a member without the property, or by nothing, is what is dropped. -/
theorem dropWhile_append_stop
    (inside : ∀ member ∈ run, holds member = true)
    (outside : ∀ member ∈ rest.head?, holds member = false) :
    (run ++ rest).dropWhile holds = rest := by
  rw [List.dropWhile_append_of_pos inside]
  cases rest with
  | nil => rfl
  | cons first more => simp [outside first rfl]

/-- What is left when runs are dropped at both ends does not begin with a member of them. -/
theorem not_of_trimmed
    {members : List α}
    {first : α}
    (trimmed : (members.dropWhile holds).rdropWhile holds = first :: rest) :
    holds first = false := by
  have kept : first :: rest <+: members.dropWhile holds := by
    rw [← trimmed]
    exact List.rdropWhile_prefix _ _
  obtain ⟨dropped, whole⟩ := kept
  have stops := List.head?_dropWhile_not holds members
  rw [← whole] at stops
  simpa using stops

end Runs

/-- What is dropped up to a member is what stands in front of its first occurrence. -/
theorem exists_dropWhile_ne_eq
    {α : Type}
    [DecidableEq α]
    {members : List α}
    {wanted : α}
    (member : wanted ∈ members) :
    ∃ front back, members = front ++ wanted :: back ∧
      members.dropWhile (· != wanted) = wanted :: back := by
  obtain ⟨front, back, rfl, notBefore⟩ := List.eq_append_cons_of_mem member
  refine ⟨front, back, rfl, dropWhile_append_stop ?_ (by simp)⟩
  intro other inFront
  have different : other ≠ wanted := fun same => notBefore (same ▸ inFront)
  simpa using different

/-- Where members with a property are followed by one without it, or by nothing, it is known
where they end. -/
theorem eq_of_append_eq_append_of_run
    {α : Type}
    {holds : α → Prop}
    {left right leftRest rightRest : List α}
    (leftHolds : ∀ member ∈ left, holds member)
    (rightHolds : ∀ member ∈ right, holds member)
    (leftEnds : ∀ next ∈ leftRest.head?, ¬holds next)
    (rightEnds : ∀ next ∈ rightRest.head?, ¬holds next)
    (same : left ++ leftRest = right ++ rightRest) :
    left = right ∧ leftRest = rightRest := by
  induction left generalizing right with
  | nil =>
      cases right with
      | nil => exact ⟨rfl, same⟩
      | cons first others =>
          have isNext : first ∈ leftRest.head? := by
            rw [List.nil_append] at same
            rw [same]
            rfl
          exact absurd (rightHolds first List.mem_cons_self) (leftEnds first isNext)
  | cons first others inductionHypothesis =>
      obtain ⟨firstHolds, othersHold⟩ := List.forall_mem_cons.1 leftHolds
      cases right with
      | nil =>
          have isNext : first ∈ rightRest.head? := by
            rw [List.nil_append] at same
            rw [← same]
            rfl
          exact absurd firstHolds (rightEnds first isNext)
      | cons otherFirst more =>
          obtain ⟨rfl, sameRest⟩ := List.cons_eq_cons.1 same
          obtain ⟨rfl, restsSame⟩ :=
            inductionHypothesis othersHold (List.forall_mem_cons.1 rightHolds).2 sameRest
          exact ⟨rfl, restsSame⟩

/-! ## Standing before -/

variable {α : Type} {first second : α}

/-- What stands before a member is among those in front of it. -/
theorem mem_of_pair_sublist_append
    {front back : List α}
    (apart : (front ++ second :: back).Nodup)
    (before : [first, second].Sublist (front ++ second :: back)) :
    first ∈ front := by
  induction front with
  | nil =>
      have absent : second ∉ back := (List.nodup_cons.1 apart).1
      have pair : [second].Sublist back := by
        cases before with
        | cons _ inBack => exact (List.sublist_cons_self first [second]).trans inBack
        | cons_cons _ inBack => exact inBack
      exact absurd (List.singleton_sublist.1 pair) absent
  | cons head rest inductionHypothesis =>
      cases before with
      | cons _ inRest =>
          exact List.mem_cons_of_mem head
            (inductionHypothesis (List.nodup_cons.1 apart).2 inRest)
      | cons_cons _ _ => exact List.mem_cons_self

/-- What stands before a member stands before all that is behind that member. -/
theorem pair_sublist_trans
    {third : α}
    {members : List α}
    (apart : members.Nodup)
    (before : [first, second].Sublist members)
    (after : [second, third].Sublist members) :
    [first, third].Sublist members := by
  induction members with
  | nil => cases before
  | cons head rest inductionHypothesis =>
      obtain ⟨absent, restApart⟩ := List.nodup_cons.1 apart
      cases after with
      | cons _ afterInRest =>
          have thirdInRest : [third].Sublist rest :=
            (List.sublist_cons_self second [third]).trans afterInRest
          cases before with
          | cons _ beforeInRest =>
              apply List.Sublist.cons
              exact inductionHypothesis restApart beforeInRest afterInRest
          | cons_cons _ _ => exact thirdInRest.cons_cons _
      | cons_cons _ thirdInRest =>
          cases before with
          | cons _ beforeInRest => exact absurd (beforeInRest.subset (by simp)) absent
          | cons_cons _ _ => exact thirdInRest.cons_cons _

/-- What stands before a member has the smaller index. -/
theorem idxOf_lt_idxOf_of_pair_sublist
    [DecidableEq α]
    {members : List α}
    (apart : members.Nodup)
    (before : [first, second].Sublist members) :
    members.idxOf first < members.idxOf second := by
  induction members with
  | nil => simp at before
  | cons head rest inductionHypothesis =>
      obtain ⟨absent, restApart⟩ := List.nodup_cons.1 apart
      have different : ∀ member ∈ rest, head ≠ member := by
        rintro member isMember rfl
        exact absent isMember
      cases before with
      | cons _ inRest =>
          rw [List.idxOf_cons_ne _ (different first (inRest.subset (by simp))),
            List.idxOf_cons_ne _ (different second (inRest.subset (by simp)))]
          exact Nat.succ_lt_succ (inductionHypothesis restApart inRest)
      | cons_cons _ inRest =>
          rw [List.idxOf_cons_self,
            List.idxOf_cons_ne _ (different second (inRest.subset (by simp)))]
          exact Nat.succ_pos _

/-- Of two members only one stands before the other. -/
theorem not_pair_sublist_of_pair_sublist
    [DecidableEq α]
    {members : List α}
    (apart : members.Nodup)
    (before : [first, second].Sublist members) :
    ¬ [second, first].Sublist members := by
  intro after
  have forth := idxOf_lt_idxOf_of_pair_sublist apart before
  have back := idxOf_lt_idxOf_of_pair_sublist apart after
  omega

/-- Where one member stands before another, no two members stand the other way round. -/
theorem pairwise_of_pair_sublist
    [DecidableEq α]
    {members : List α}
    (apart : members.Nodup)
    (before : [first, second].Sublist members) :
    members.Pairwise fun left right => ¬(left = second ∧ right = first) := by
  rw [List.pairwise_iff_forall_sublist]
  rintro left right after ⟨rfl, rfl⟩
  exact not_pair_sublist_of_pair_sublist apart before after

/-- Members stand in a part of a list as they stand in the whole of it. -/
theorem pair_sublist_of_sublist
    [DecidableEq α]
    {part whole : List α}
    (apart : whole.Nodup)
    (isSublist : part.Sublist whole)
    (firstMember : first ∈ part)
    (secondMember : second ∈ part)
    (before : [first, second].Sublist whole) :
    [first, second].Sublist part := by
  have isPart : whole.filter (· ∈ part) = part := by
    apply (apart.perm_iff_eq_of_sublist List.filter_sublist isSublist).1
    rw [List.perm_ext_iff_of_nodup (apart.filter _) (apart.sublist isSublist)]
    intro member
    simpa using fun isMember => isSublist.subset isMember
  have kept := before.filter (· ∈ part)
  rw [isPart] at kept
  simpa [firstMember, secondMember] using kept

end CloudPlan
