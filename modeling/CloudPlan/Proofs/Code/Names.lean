import CloudPlan.Code.Generation
import CloudPlan.Proofs.Lookup
import Mathlib.Data.List.Perm.Subperm
import Std.Data.String.ToNat

/-!
# Identifiers that differ

Identifiers are assigned one after the other, each apart from all that are taken.  Of
the numbered names one more is tried than there are taken ones, so one of them is free.
Every resource of an architecture gets an identifier, and no two ids share one.
-/

namespace CloudPlan.Code

/-! ## Numbered names -/

theorem toList_numbered_succ (base : String) (attempt : Nat) :
    (numbered base (attempt + 1)).toList =
      base.toList ++ '_' :: (toString (attempt + 2)).toList := by
  simp [numbered, String.toList_append]

theorem numbered_injective (base : String) : Function.Injective (numbered base) := by
  intro first second equal
  have texts : (numbered base first).toList = (numbered base second).toList := by
    rw [equal]
  cases first with
  | zero =>
      cases second with
      | zero => rfl
      | succ second =>
          rw [toList_numbered_succ, numbered, if_pos rfl, List.self_eq_append_right] at texts
          contradiction
  | succ first =>
      cases second with
      | zero =>
          rw [toList_numbered_succ, numbered, if_pos rfl, List.append_right_eq_self] at texts
          contradiction
      | succ second =>
          simp only [toList_numbered_succ, List.append_cancel_left_eq, List.cons.injEq,
            true_and] at texts
          have numbers := Nat.repr_injective (String.toList_inj.1 texts)
          omega

/-- Of one more numbered name than are taken, one is free. -/
theorem exists_numbered_not_mem (taken : List String) (base : String) :
    ∃ attempt ∈ List.range (taken.length + 1), numbered base attempt ∉ taken := by
  by_contra allTaken
  push Not at allTaken
  have apart : ((List.range (taken.length + 1)).map (numbered base)).Nodup :=
    List.nodup_range.map (numbered_injective base)
  have subset : (List.range (taken.length + 1)).map (numbered base) ⊆ taken := by
    intro name member
    obtain ⟨attempt, tried, rfl⟩ := List.mem_map.1 member
    exact allTaken attempt tried
  have atMost := (apart.subperm subset).length_le
  rw [List.length_map, List.length_range] at atMost
  omega

/-- Numbered names are tried from a given attempt on.  Those that are taken are passed over, and
the first one that is free is found. -/
inductive FindsName (taken : List String) (base : String) : Nat → String → Prop
  /-- The name of the attempt is free. -/
  | free
      {attempt : Nat}
      (isFree : numbered base attempt ∉ taken) :
      FindsName taken base attempt (numbered base attempt)
  /-- The name of the attempt is taken. -/
  | passes
      {attempt : Nat}
      {found : String}
      (isTaken : numbered base attempt ∈ taken)
      (goesOn : FindsName taken base (attempt + 1) found) :
      FindsName taken base attempt found

namespace FindsName

variable {taken : List String} {base : String}

/-- The name that is found is numbered, and not taken. -/
theorem exists_numbered
    {attempt : Nat}
    {name : String}
    (finds : FindsName taken base attempt name) :
    ∃ number, name = numbered base number ∧ numbered base number ∉ taken := by
  induction finds with
  | free isFree => exact ⟨_, rfl, isFree⟩
  | passes _ _ inductionHypothesis => exact inductionHypothesis

/-- The name itself is found exactly when it is not taken. -/
theorem eq_base_iff
    {name : String}
    (finds : FindsName taken base 0 name) :
    name = base ↔ base ∉ taken := by
  have isFirst : numbered base 0 = base := if_pos rfl
  constructor
  · rintro rfl
    obtain ⟨number, isNumbered, isFree⟩ := finds.exists_numbered
    rwa [← isNumbered] at isFree
  · intro isFree
    cases finds with
    | free => exact isFirst
    | passes isTaken =>
        rw [isFirst] at isTaken
        exact absurd isTaken isFree

/-- Only which names are taken matters, not when they were. -/
theorem congr
    {others : List String}
    (same : ∀ name, name ∈ taken ↔ name ∈ others)
    {attempt : Nat}
    {name : String}
    (finds : FindsName taken base attempt name) :
    FindsName others base attempt name := by
  induction finds with
  | free isFree => exact .free (mt (same _).2 isFree)
  | passes isTaken _ inductionHypothesis => exact .passes ((same _).1 isTaken) inductionHypothesis

end FindsName

/-- A list of attempts in which one is free gives the name that the search finds. -/
theorem findsName_of_find?
    {taken : List String}
    {base : String}
    {start count : Nat}
    {name : String}
    (found : ((List.range' start count).map (numbered base)).find? (· ∉ taken) = some name) :
    FindsName taken base start name := by
  induction count generalizing start with
  | zero => contradiction
  | succ count inductionHypothesis =>
      rw [List.range'_succ, List.map_cons, List.find?_cons] at found
      by_cases isTaken : numbered base start ∈ taken
      · simp only [isTaken, not_true_eq_false, decide_false] at found
        exact .passes isTaken (inductionHypothesis found)
      · simp only [isTaken, not_false_eq_true, decide_true, Option.some.injEq] at found
        rw [← found]
        exact .free isTaken

/-- The search for a name ends, whichever names are taken. -/
theorem findsName_freshName (taken : List String) (base : String) :
    FindsName taken base 0 (freshName taken base) := by
  obtain ⟨attempt, tried, free⟩ := exists_numbered_not_mem taken base
  cases found : ((List.range (taken.length + 1)).map (numbered base)).find? (· ∉ taken) with
  | none =>
      have occupied := List.find?_eq_none.1 found _ (List.mem_map_of_mem tried)
      exact absurd (decide_eq_true free) occupied
  | some name =>
      rw [freshName, found, Option.getD_some]
      rw [List.range_eq_range'] at found
      exact findsName_of_find? found

theorem freshName_not_mem (taken : List String) (base : String) :
    freshName taken base ∉ taken := by
  obtain ⟨_, isNumbered, isFree⟩ := (findsName_freshName taken base).exists_numbered
  rwa [isNumbered]

/-! ## Assigned names -/

section AssignedNames

variable (identifier : String → String)

theorem map_fst_assignNames (taken : List String) (resources : List Resource) :
    (assignNames identifier taken resources).map (·.1) = resources.map (·.id) := by
  induction resources generalizing taken with
  | nil => rfl
  | cons resource rest inductionHypothesis =>
      rw [assignNames, List.map_cons, List.map_cons, inductionHypothesis]

theorem not_mem_taken_of_mem_assignNames
    {taken : List String}
    {resources : List Resource}
    {entry : String × String}
    (member : entry ∈ assignNames identifier taken resources) :
    entry.2 ∉ taken := by
  induction resources generalizing taken with
  | nil => contradiction
  | cons resource rest inductionHypothesis =>
      rcases List.mem_cons.1 member with rfl | later
      · exact freshName_not_mem taken _
      · intro isTaken
        exact inductionHypothesis later (List.mem_cons_of_mem _ isTaken)

theorem nodup_assignNames (taken : List String) (resources : List Resource) :
    ((assignNames identifier taken resources).map (·.2)).Nodup := by
  induction resources generalizing taken with
  | nil => exact List.nodup_nil
  | cons resource rest inductionHypothesis =>
      rw [assignNames, List.map_cons, List.nodup_cons]
      refine ⟨?_, inductionHypothesis _⟩
      intro again
      obtain ⟨entry, later, sameName⟩ := List.mem_map.1 again
      -- The name is among those taken when the later one is assigned.
      apply not_mem_taken_of_mem_assignNames identifier later
      rw [sameName]
      exact List.mem_cons_self

theorem length_assignNames (taken : List String) (resources : List Resource) :
    (assignNames identifier taken resources).length = resources.length := by
  have ids := congrArg List.length (map_fst_assignNames identifier taken resources)
  rwa [List.length_map, List.length_map] at ids

/-- Every name that is given is a numbered one of some resource. -/
theorem exists_numbered_of_mem_assignNames
    {taken : List String}
    {resources : List Resource}
    {entry : String × String}
    (member : entry ∈ assignNames identifier taken resources) :
    ∃ resource ∈ resources, ∃ number, entry.2 = numbered (identifier resource.name) number := by
  induction resources generalizing taken with
  | nil => contradiction
  | cons resource rest inductionHypothesis =>
      rcases List.mem_cons.1 member with rfl | later
      · obtain ⟨number, isNumbered, _⟩ := (findsName_freshName taken _).exists_numbered
        exact ⟨resource, List.mem_cons_self, number, isNumbered⟩
      · obtain ⟨other, isOther, numbered⟩ := inductionHypothesis later
        exact ⟨other, List.mem_cons_of_mem _ isOther, numbered⟩

/-- Every resource gets the first name that neither was taken before nor was given to a resource
in front of it. -/
theorem exists_findsName_assignNames
    (taken : List String)
    {resources : List Resource}
    {place : Nat}
    {resource : Resource}
    (isHere : resources[place]? = some resource) :
    ∃ name, (assignNames identifier taken resources)[place]? = some (resource.id, name) ∧
      FindsName (((assignNames identifier taken resources).map (·.2)).take place ++ taken)
        (identifier resource.name) 0 name := by
  induction resources generalizing taken place with
  | nil => simp at isHere
  | cons first rest inductionHypothesis =>
      cases place with
      | zero =>
          obtain rfl : first = resource := by simpa using isHere
          exact ⟨_, rfl, findsName_freshName taken _⟩
      | succ place =>
          obtain ⟨name, isGiven, finds⟩ :=
            inductionHypothesis (freshName taken (identifier first.name) :: taken) isHere
          refine ⟨name, isGiven, finds.congr ?_⟩
          intro other
          simp only [assignNames, List.map_cons, List.take_succ_cons, List.mem_append,
            List.mem_cons]
          tauto

end AssignedNames

/-! ## Names in a context -/

/-- Every resource of the architecture has an identifier. -/
def Context.Named (context : Context) : Prop :=
  ∀ resource ∈ context.architecture.resources,
    ∃ name, context.localName? resource.id = some name

theorem named_context
    (writer : Writer)
    (architecture : Architecture) :
    (Registry.context writer architecture).Named := by
  intro resource member
  cases found : (Registry.context writer architecture).localName? resource.id with
  | some name => exact ⟨name, rfl⟩
  | none =>
      have absent := List.lookup_eq_none_iff.1 found
      have listed : resource.id ∈ (localNames writer architecture).map (·.1) := by
        rw [localNames, map_fst_assignNames]
        exact List.mem_map_of_mem member
      obtain ⟨entry, entryMember, sameId⟩ := List.mem_map.1 listed
      have different := absent entry (List.mem_reverse.2 entryMember)
      simp [sameId] at different

variable {writer : Writer} {architecture : Architecture}

theorem mem_localNames_of_localName?
    {id name : String}
    (isName : (Registry.context writer architecture).localName? id = some name) :
    (id, name) ∈ localNames writer architecture :=
  List.mem_reverse.1 (mem_of_lookup_eq_some isName)

/-- An identifier belongs to one id only. -/
theorem id_eq_of_localName?_eq
    {id other name : String}
    (isName : (Registry.context writer architecture).localName? id = some name)
    (isOther : (Registry.context writer architecture).localName? other = some name) :
    id = other := by
  have apart := nodup_assignNames writer.identifier [] architecture.resources
  have same := List.inj_on_of_nodup_map apart (mem_localNames_of_localName? isName)
    (mem_localNames_of_localName? isOther) rfl
  exact congrArg Prod.fst same

end CloudPlan.Code
