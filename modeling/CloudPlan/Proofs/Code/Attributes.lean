import CloudPlan.Code.Block
import CloudPlan.Proofs.Sequence

/-!
# Attributes by their keys

An attribute that is set takes the place of the one under its key, or goes behind the
others if there is none.  Where the members of a list give attributes under keys of their
own, each member sets its attribute once, however often it is listed.
-/

namespace CloudPlan.Code.Attributes

variable {key : String} {value : AttrValue} {attributes : Attributes}

/-- A key that has no value yet gets one behind the others. -/
theorem set_of_not_mem
    (absent : key ∉ attributes.map (·.1)) :
    set key value attributes = attributes ++ [(key, value)] := by
  induction attributes with
  | nil => rfl
  | cons first rest inductionHypothesis =>
      rw [List.map_cons, List.mem_cons, not_or] at absent
      obtain ⟨different, restAbsent⟩ := absent
      rw [set, if_neg (Ne.symm different), inductionHypothesis restAbsent, List.cons_append]

/-- Setting what is there changes nothing. -/
theorem set_of_mem
    (apart : (attributes.map (·.1)).Nodup)
    (member : (key, value) ∈ attributes) :
    set key value attributes = attributes := by
  induction attributes with
  | nil => contradiction
  | cons first rest inductionHypothesis =>
      obtain ⟨absent, restApart⟩ := List.nodup_cons.1 apart
      rcases List.mem_cons.1 member with rfl | isLater
      · rw [set, if_pos rfl]
      · have different : first.1 ≠ key := by
          rintro rfl
          exact absent (List.mem_map.2 ⟨_, isLater, rfl⟩)
        rw [set, if_neg different, inductionHypothesis restApart isLater]

theorem ofList_concat
    (pairs : List (String × AttrValue))
    (last : String × AttrValue) :
    ofList (pairs ++ [last]) = set last.1 last.2 (ofList pairs) := by
  rw [ofList, List.foldl_append, List.foldl_cons, List.foldl_nil, ofList]

section OwnKeys

variable {α : Type} {gives : α → Option (String × AttrValue)}

/-- Members give attributes under keys of their own. -/
def OwnKeys (gives : α → Option (String × AttrValue)) : Prop :=
  ∀ first second entry other, gives first = some entry → gives second = some other →
    entry.1 = other.1 → first = second

/-- Different members give no key twice. -/
theorem OwnKeys.nodup_keys
    (own : OwnKeys gives)
    {members : List α}
    (apart : members.Nodup) :
    ((members.filterMap gives).map (·.1)).Nodup := by
  rw [List.map_filterMap]
  refine apart.filterMap ?_
  intro first second key isFirst isSecond
  obtain ⟨entry, isEntry, rfl⟩ := Option.map_eq_some_iff.1 isFirst
  obtain ⟨other, isOther, sameKey⟩ := Option.map_eq_some_iff.1 isSecond
  exact own first second entry other isEntry isOther sameKey.symm

/-- Members that give attributes under keys of their own set them once each. -/
theorem OwnKeys.ofList_filterMap
    [DecidableEq α]
    (own : OwnKeys gives)
    (members : List α) :
    ofList (members.filterMap gives) = members.eraseDups.filterMap gives := by
  induction members using List.reverseRecOn with
  | nil => rfl
  | append_singleton members last inductionHypothesis =>
      rw [List.filterMap_append, List.filterMap_cons, List.filterMap_nil, eraseDups_concat]
      cases isGiven : gives last with
      | none =>
          simp only [List.append_nil, inductionHypothesis]
          split
          · rfl
          · simp [List.filterMap_append, isGiven]
      | some entry =>
          simp only [ofList_concat, inductionHypothesis]
          split
          next again =>
            have isThere : entry ∈ members.eraseDups.filterMap gives :=
              List.mem_filterMap.2 ⟨last, List.mem_eraseDups.2 again, isGiven⟩
            exact set_of_mem (own.nodup_keys (nodup_eraseDups members)) isThere
          next isNew =>
            have absent : entry.1 ∉ (members.eraseDups.filterMap gives).map (·.1) := by
              intro isKey
              obtain ⟨other, isOther, sameKey⟩ := List.mem_map.1 isKey
              obtain ⟨giver, isGiver, gave⟩ := List.mem_filterMap.1 isOther
              rw [own giver last other entry gave isGiven sameKey, List.mem_eraseDups] at isGiver
              exact isNew isGiver
            rw [set_of_not_mem absent]
            simp [List.filterMap_append, isGiven]

end OwnKeys

end CloudPlan.Code.Attributes
