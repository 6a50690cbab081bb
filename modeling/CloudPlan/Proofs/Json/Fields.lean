import CloudPlan.Proofs.Json.TextLists
import CloudPlan.Proofs.Lookup
import Mathlib.Data.Option.Basic

/-!
# Fields of records

What a document gives as a field of a record is what is read as that field: a member of its name,
wherever it stands among the members, or the item at its place in a list.
-/

namespace CloudPlan.Json

section members

variable {α : Type} {fields : List Field} {members given : List (String × α)}

/-- No field is given twice. -/
theorem nodup_of_fieldsOfMembers?
    (reads : fieldsOfMembers? fields members = some given) :
    (given.map (·.1)).Nodup := by
  induction members generalizing given with
  | nil =>
      obtain rfl := Option.some.inj reads
      exact List.nodup_nil
  | cons member rest inductionHypothesis =>
      obtain ⟨found, isFound, reads⟩ := Option.bind_eq_some_iff.1 reads
      have apart := inductionHypothesis isFound
      split at reads
      next =>
        obtain rfl := Option.some.inj reads
        exact apart
      next field _ =>
        obtain ⟨_, isNew, reads⟩ := Option.bind_eq_some_iff.1 reads
        obtain rfl := Option.some.inj reads
        rw [Option.guard_eq_some', Option.isNone_iff_eq_none, List.lookup_eq_none_iff] at isNew
        rw [List.map_cons, List.nodup_cons]
        refine ⟨fun member => ?_, apart⟩
        obtain ⟨other, isOther, same⟩ := List.mem_map.1 member
        have different := isNew other isOther
        simp [same] at different

/-- A member that goes by the name of a field is given under the field's own name. -/
theorem mem_of_fieldsOfMembers?
    (reads : fieldsOfMembers? fields members = some given)
    {name : String}
    {content : α}
    (isMember : (name, content) ∈ members)
    {field : Field}
    (isField : fields.find? (·.goesBy name) = some field) :
    (field.name, content) ∈ given := by
  induction members generalizing given with
  | nil => exact absurd isMember List.not_mem_nil
  | cons member rest inductionHypothesis =>
      obtain ⟨found, isFound, reads⟩ := Option.bind_eq_some_iff.1 reads
      rcases List.mem_cons.1 isMember with rfl | inRest
      · simp only [isField] at reads
        obtain ⟨_, _, reads⟩ := Option.bind_eq_some_iff.1 reads
        obtain rfl := Option.some.inj reads
        exact List.mem_cons_self
      · have isGiven := inductionHypothesis isFound inRest
        split at reads
        next =>
          obtain rfl := Option.some.inj reads
          exact isGiven
        next =>
          obtain ⟨_, _, reads⟩ := Option.bind_eq_some_iff.1 reads
          obtain rfl := Option.some.inj reads
          exact List.mem_cons_of_mem _ isGiven

end members

/-- A document gives a field of a record. -/
inductive GivesField (fields : List Field) (name : String) (content : Tree) : Tree → Prop
  /-- As a member of an object. -/
  | member
      {members : List (Option String × Tree)}
      (isMember : (some name, content) ∈ members) :
      GivesField fields name content (.object members)
  /-- As an item of a list. -/
  | placed
      {items : List Tree}
      {place : Nat}
      (isField : (fields.map (·.name))[place]? = some name)
      (isItem : items[place]? = some content) :
      GivesField fields name content (.list items)

/-- The members of an object are seen as they are written. -/
theorem mem_of_view_object
    {members : List (Option String × Tree)}
    {room : Nat}
    {named : List (String × Nested)}
    (isObject : Source.view (Nested.mk (.object members) room) = .object named)
    {name : String}
    {content : Tree}
    (isMember : (some name, content) ∈ members) :
    (name, Nested.mk content (room - 1)) ∈ named := by
  simp only [Source.view] at isObject
  split at isObject
  next => contradiction
  next _ seen areSeen =>
    obtain rfl := View.object.inj isObject
    obtain ⟨place, isPlaced⟩ := List.mem_iff_getElem?.1 isMember
    obtain ⟨result, isSeen, stands⟩ := getElem?_of_mapM_eq_some areSeen isPlaced
    obtain rfl := Option.some.inj isSeen
    exact List.mem_of_getElem? stands
  next => contradiction

/-- What a document gives as a field is found under the name of the field. -/
theorem lookup_of_givesField
    {fields : List Field}
    (apart : (fields.map (·.name)).Nodup)
    {document : Tree}
    {room : Nat}
    {given : List (String × Nested)}
    (reads : fields? fields (Nested.mk document room) = some given)
    (field : Field)
    (isField : fields.find? (·.goesBy field.name) = some field)
    {content : Tree}
    (gives : GivesField fields field.name content document) :
    given.lookup field.name = some (Nested.mk content (room - 1)) := by
  cases gives with
  | @member members isMember =>
      rcases view_object_nested members room with ⟨named, isObject⟩ | unreadable
      · simp only [fields?, isObject] at reads
        rw [lookup_eq_some_iff_of_apart (nodup_of_fieldsOfMembers? reads)]
        exact mem_of_fieldsOfMembers? reads (mem_of_view_object isObject isMember) isField
      · simp only [fields?, unreadable] at reads
        contradiction
  | @placed items place isName isItem =>
      cases room with
      | zero => contradiction
      | succ room =>
          simp only [fields?, view_list_nested] at reads
          split at reads
          next =>
            obtain rfl := Option.some.inj reads
            have keys : (((fields.map (·.name)).zip (items.map (Nested.mk · room))).map
                (·.1)).Nodup := by
              rw [List.zip_eq_zip_take_min, List.map_fst_zip (by simp)]
              exact apart.sublist (List.take_sublist _ _)
            rw [lookup_eq_some_iff_of_apart keys]
            apply List.mem_of_getElem?
            rw [List.getElem?_zip_eq_some]
            exact ⟨isName, by rw [List.getElem?_map, isItem]; rfl⟩
          next => contradiction

end CloudPlan.Json
