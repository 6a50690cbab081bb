import CloudPlan.Proofs.Architecture.Growth
import CloudPlan.Proofs.Architecture.Sortability
import CloudPlan.Proofs.Catalog.Aws

/-!
# Orders that go stale

A sorted architecture is marked as ordered, and an expansion keeps the mark.  What it adds
stands behind the resource that it was added for, which is the right place for contents
and the wrong one for prerequisites.  So the mark is right exactly as long as expansions
have added nothing but contents since the last sort.
-/

namespace CloudPlan.Architecture

variable {architecture start sorted : Architecture} {rule : HiddenRule} {parent : String}
  {ids : List String}

/-- Every resource stands behind all that has to be there before it. -/
def InOrder (architecture : Architecture) : Prop :=
  ∀ before after, architecture.Precedes before after → [before, after].Sublist architecture.ids

/-! ## Additions -/

theorem ids_sublist_addChildren :
    architecture.ids.Sublist (addChildren architecture rule parent ids).ids := by
  have kept := (sublist_insertAfter parent (ids.map (synthesize rule parent))
    (modifyFirst parent (linkTo rule ids) architecture.resources)).map (·.id)
  rw [map_id_modifyFirst_linkTo] at kept
  exact kept

theorem Addable.parent_before_new
    (addable : Addable architecture parent ids)
    {id : String}
    (isNew : id ∈ ids) :
    [parent, id].Sublist (addChildren architecture rule parent ids).ids := by
  have known : parent ∈
      (modifyFirst parent (linkTo rule ids) architecture.resources).map (·.id) := by
    rw [map_id_modifyFirst_linkTo]
    exact addable.parentKnown
  have isAdded : synthesize rule parent id ∈ ids.map (synthesize rule parent) :=
    List.mem_map_of_mem isNew
  exact pair_sublist_insertAfter known isAdded

theorem Addable.distinct_addChildren
    (addable : Addable architecture parent ids)
    (distinct : architecture.ids.Nodup)
    (rule : HiddenRule) :
    (addChildren architecture rule parent ids).ids.Nodup := by
  have resources : (addChildren architecture rule parent ids).ids.Perm
      (architecture.extended rule parent ids).ids := (addChildren_perm distinct).map _
  exact resources.nodup_iff.2 (addable.distinct_extended distinct rule)

/-- An addition keeps an order exactly when it adds contents, or nothing at all. -/
theorem inOrder_addChildren_iff
    (distinct : architecture.ids.Nodup)
    (closed : architecture.Closed)
    (addable : Addable architecture parent ids) :
    (addChildren architecture rule parent ids).InOrder ↔
      architecture.InOrder ∧ (rule.isAttached = true ∨ ids = []) := by
  have grown := addable.distinct_addChildren distinct rule
  have resources : (addChildren architecture rule parent ids).resources.Perm
      (architecture.extended rule parent ids).resources := addChildren_perm distinct
  have precedesIff (before after : String) :
      (addChildren architecture rule parent ids).Precedes before after ↔
        architecture.Precedes before after ∨
          if rule.isAttached then before = parent ∧ after ∈ ids
          else before ∈ ids ∧ after = parent :=
    (⟨Precedes.of_perm resources, Precedes.of_perm resources.symm⟩ : _ ↔ _).trans
      (precedes_extended_iff addable.parentKnown before after)
  constructor
  · intro inOrder
    constructor
    · intro before after precedes
      obtain ⟨beforeKnown, afterKnown⟩ := closed.mem_ids precedes
      exact pair_sublist_of_sublist grown ids_sublist_addChildren beforeKnown afterKnown
        (inOrder before after ((precedesIff before after).2 (Or.inl precedes)))
    · by_contra! detached
      obtain ⟨notAttached, some⟩ := detached
      obtain ⟨id, isNew⟩ := List.exists_mem_of_ne_nil ids some
      have precedes : (addChildren architecture rule parent ids).Precedes id parent := by
        rw [precedesIff, if_neg notAttached]
        exact Or.inr ⟨isNew, rfl⟩
      exact not_pair_sublist_of_pair_sublist grown (addable.parent_before_new isNew)
        (inOrder id parent precedes)
  · rintro ⟨inOrder, onlyContents⟩ before after precedes
    rcases (precedesIff before after).1 precedes with old | added
    · exact (inOrder before after old).trans ids_sublist_addChildren
    · rcases onlyContents with attached | rfl
      · rw [if_pos attached] at added
        obtain ⟨rfl, isNew⟩ := added
        exact addable.parent_before_new isNew
      · split_ifs at added <;> simp at added

/-! ## Sorting -/

theorem closed_of_sort
    (succeeds : architecture.sort = .ok sorted) :
    architecture.Closed := by
  by_contra dangling
  obtain ⟨_, _, _, fails⟩ := sort_of_not_closed dangling
  rw [succeeds] at fails
  contradiction

theorem Closed.inOrder_of_sort
    (closed : architecture.Closed)
    (distinct : architecture.ids.Nodup)
    (succeeds : architecture.sort = .ok sorted) :
    sorted.InOrder := by
  have resources := closed.perm_of_sort distinct succeeds
  obtain ⟨places, ordered, rfl⟩ := (sort_eq_ok_iff sorted).1 succeeds
  intro before after precedes
  rw [ids_arranged]
  exact (closed.isLeast_order distinct ordered).1.2 before after (precedes.of_perm resources)

/-! ## What came since -/

/-- All that has come since a sort is contained in something. -/
def OnlyContentsSince (sorted current : Architecture) : Prop :=
  ∀ resource ∈ current.resources, resource.id ∉ sorted.ids → resource.parents ≠ []

theorem onlyContentsSince_addChildren_iff
    (distinct : architecture.ids.Nodup)
    (addable : Addable architecture parent ids)
    (kept : sorted.ids ⊆ architecture.ids) :
    OnlyContentsSince sorted (addChildren architecture rule parent ids) ↔
      OnlyContentsSince sorted architecture ∧ (rule.isAttached = true ∨ ids = []) := by
  have contained (id : String) :
      (synthesize rule parent id).parents ≠ [] ↔ rule.isAttached = true := by
    unfold synthesize
    split_ifs with attached <;> simp [attached]
  have memberIff := mem_addChildren_iff rule parent ids distinct
  constructor
  · intro onlyContents
    constructor
    · intro resource member isLate
      have grown := onlyContents _ ((memberIff _).2 (Or.inl ⟨resource, member, rfl⟩))
      rw [id_relink, parents_relink] at grown
      exact grown isLate
    · by_contra! detached
      obtain ⟨notAttached, some⟩ := detached
      obtain ⟨id, isNew⟩ := List.exists_mem_of_ne_nil ids some
      have inSomething := onlyContents _ ((memberIff _).2 (Or.inr ⟨id, isNew, rfl⟩))
        fun inSorted => addable.fresh id isNew (kept inSorted)
      exact notAttached ((contained id).1 inSomething)
  · rintro ⟨onlyContents, attachedOrNone⟩ resource member isLate
    rcases (memberIff resource).1 member with ⟨old, oldMember, rfl⟩ | ⟨id, isNew, rfl⟩
    · rw [id_relink] at isLate
      rw [parents_relink]
      exact onlyContents old oldMember isLate
    · rcases attachedOrNone with attached | rfl
      · exact (contained id).2 attached
      · simp at isNew

/-! ## Sessions -/

/-- A call that is made on an architecture. -/
inductive Call where
  /-- The resources are sorted; if they cannot be, nothing changes. -/
  | sort
  /-- What the rules of a catalogue ask for is added, up to the first rule that fails. -/
  | expand (catalog : Catalog)

/-- An architecture that calls are made on. -/
structure Session where
  /-- The architecture as it is. -/
  current : Architecture
  /-- What the last sort that succeeded has made of it, if one has. -/
  sorted : Option Architecture := none

namespace Session

variable {session : Session}

/-- The session after a call. -/
def perform (session : Session) : Call → Session
  | .sort =>
    match session.current.sort with
    | .ok sorted => { current := sorted, sorted := some sorted }
    | .error _ => session
  | .expand catalog =>
    { session with current := (Architecture.expand catalog session.current).architecture }

/-- The session after calls, one after the other. -/
def run (session : Session) (calls : List Call) : Session :=
  calls.foldl perform session

/-- The mark says whether a sort has succeeded, and it is right as long as only contents have
been added since. -/
structure Sound (session : Session) : Prop where
  /-- No two resources have the same id. -/
  distinct : session.current.ids.Nodup
  /-- The architecture is marked as ordered once a sort has succeeded. -/
  marked : session.current.ordered = session.sorted.isSome
  /-- What was sorted is still there, and links lead somewhere. -/
  kept : ∀ sorted ∈ session.sorted,
    sorted.ids ⊆ session.current.ids ∧ session.current.Closed
  /-- The order holds as long as only contents have been added. -/
  inOrder_iff : ∀ sorted ∈ session.sorted,
    (session.current.InOrder ↔ OnlyContentsSince sorted session.current)

theorem Sound.addition
    (sound : session.Sound)
    (rule : HiddenRule)
    (addable : Addable session.current parent ids) :
    Sound { session with current := addChildren session.current rule parent ids } where
  distinct := addable.distinct_addChildren sound.distinct rule
  marked := sound.marked
  kept sorted isSorted := by
    obtain ⟨kept, closed⟩ := sound.kept sorted isSorted
    exact ⟨List.Subset.trans kept ids_sublist_addChildren.subset,
      (closed.extended rule addable).of_perm (addChildren_perm sound.distinct)⟩
  inOrder_iff sorted isSorted := by
    obtain ⟨kept, closed⟩ := sound.kept sorted isSorted
    rw [inOrder_addChildren_iff sound.distinct closed addable,
      onlyContentsSince_addChildren_iff sound.distinct addable kept,
      sound.inOrder_iff sorted isSorted]

theorem Sound.perform
    (sound : session.Sound)
    (call : Call) :
    (session.perform call).Sound := by
  cases call with
  | expand catalog =>
      exact expand_induction (fun current => Sound { session with current })
        (fun _ rule _ _ sound => sound.addition rule) catalog sound
  | sort =>
      rw [Session.perform]
      split
      next sorted succeeds =>
        have closed := closed_of_sort succeeds
        have resources := closed.perm_of_sort sound.distinct succeeds
        have sameIds : sorted.ids.Perm session.current.ids := resources.map _
        obtain ⟨_, _, isArranged⟩ := (sort_eq_ok_iff sorted).1 succeeds
        constructor
        case distinct => exact sameIds.nodup_iff.2 sound.distinct
        case marked => rw [← isArranged]; rfl
        case kept =>
          rintro _ ⟨⟩
          exact ⟨List.Subset.refl _, closed.of_perm resources⟩
        case inOrder_iff =>
          rintro _ ⟨⟩
          refine iff_of_true (closed.inOrder_of_sort sound.distinct succeeds) ?_
          exact fun resource member isLate => absurd (id_mem_ids member) isLate
      next => exact sound

theorem Sound.run
    (sound : session.Sound)
    (calls : List Call) :
    (session.run calls).Sound := by
  induction calls generalizing session with
  | nil => exact sound
  | cons call rest inductionHypothesis => exact inductionHypothesis (sound.perform call)

end Session

/-- An architecture as it is made, from a diagram or resource by resource. -/
inductive Fresh : Architecture → Prop
  /-- The graph of an accepted diagram makes an architecture. -/
  | mapped
      {diagram : Diagram} {graph : Graph} {catalog : Catalog} {provider : Provider}
      {region : String} {architecture : Architecture} :
      diagram.toGraph = .ok graph →
      ofGraph catalog graph provider region = .ok architecture →
      Fresh architecture
  /-- Resources that are named apart are put together. -/
  | assembled {provider : Provider} {region : String} {resources : List Resource} :
      (resources.map (·.id)).Nodup →
      Fresh { provider, region, resources }

theorem Fresh.sound (fresh : Fresh start) : Session.Sound { current := start } := by
  cases fresh with
  | mapped resolved made =>
      have wellLinked := wellLinked_of_ofGraph (Diagram.isForest_of_toGraph resolved) made
      obtain ⟨_, _, rfl⟩ := ofGraph_eq_ok_iff.1 made
      refine ⟨wellLinked.distinct, ?_, by simp, by simp⟩
      exact expand_induction (·.ordered = false) (fun _ _ _ _ unordered _ => unordered) _ rfl
  | assembled distinct => exact ⟨distinct, rfl, by simp, by simp⟩

/-- An architecture that is marked as ordered is in order exactly when nothing but contents has
been added since the last sort. -/
theorem marked_order_holds_iff
    (fresh : Fresh start)
    (calls : List Call)
    {session : Session}
    (runs : Session.run { current := start } calls = session)
    (marked : session.current.ordered = true) :
    ∃ sorted edges, session.sorted = some sorted ∧
      session.current.provisioningEdges = .ok edges ∧
      ((∀ edge ∈ edges, [edge.before, edge.after].Sublist session.current.ids) ↔
        OnlyContentsSince sorted session.current) := by
  subst runs
  have sound := fresh.sound.run calls
  obtain ⟨sorted, isSorted⟩ := Option.isSome_iff_exists.1 (sound.marked.symm.trans marked)
  refine ⟨sorted, _, isSorted, provisioningEdges_of_closed (sound.kept sorted isSorted).2, ?_⟩
  rw [← sound.inOrder_iff sorted isSorted]
  simp only [mem_linkEdges_iff, InOrder]
  constructor
  · intro inOrder before after
    exact inOrder ⟨before, after⟩
  · intro inOrder edge
    exact inOrder edge.before edge.after

/-- One resource without links. -/
def lone (id typeName : String) : Architecture where
  provider := .aws
  region := "us-east-1"
  resources := [Resource.ofType id typeName]

theorem fresh_lone (id typeName : String) : Fresh (lone id typeName) :=
  .assembled (List.nodup_singleton id)

/-- A gateway that a sorted network is given stands behind it. -/
theorem marked_order_holds_with_gateway :
    ∃ calls session edges, Fresh (lone "net" "Network") ∧
      Session.run { current := lone "net" "Network" } calls = session ∧
      session.current.ordered = true ∧ session.current.ids = ["net", "net-gateway-1"] ∧
      session.current.provisioningEdges = .ok edges ∧
      ∀ edge ∈ edges, [edge.before, edge.after].Sublist session.current.ids := by
  obtain ⟨sorted, edges, isSorted, areEdges, holds⟩ :=
    marked_order_holds_iff (fresh_lone "net" "Network") [.sort, .expand interrupting] rfl rfl
  refine ⟨_, _, edges, fresh_lone "net" "Network", rfl, rfl, rfl, areEdges, holds.2 ?_⟩
  obtain rfl := Option.some.inj isSorted
  rintro resource (_ | ⟨_, _ | ⟨_, ⟨⟩⟩⟩) isLate
  · exact absurd (List.mem_singleton_self "net") isLate
  · exact List.cons_ne_nil _ _

/-- A role that a sorted function is given stands behind the function, which depends on it. -/
theorem marked_order_fails_with_role :
    ∃ calls session edges, Fresh (lone "fn" "Lambda") ∧
      Session.run { current := lone "fn" "Lambda" } calls = session ∧
      session.current.ordered = true ∧ session.current.ids = ["fn", "fn-iamrole-1"] ∧
      session.current.provisioningEdges = .ok edges ∧
      ∃ edge ∈ edges, ¬ [edge.before, edge.after].Sublist session.current.ids := by
  have expanded : (expand .builtIn { lone "fn" "Lambda" with ordered := true }).architecture =
      addChildren { lone "fn" "Lambda" with ordered := true } Catalog.Aws.lambdaRule "fn"
        ["fn-iamrole-1"] := by
    have due : dueRules .builtIn { lone "fn" "Lambda" with ordered := true } =
        [("fn", Catalog.Aws.lambdaRule)] := rfl
    have missing : missingIds .builtIn { lone "fn" "Lambda" with ordered := true }
        Catalog.Aws.lambdaRule "fn" = .ok ["fn-iamrole-1"] := by
      have wanted : wantedCount .builtIn Catalog.Aws.lambdaRule [] = .ok (some 1) :=
        wantedCount_eq_some_iff.2 ⟨(Catalog.Aws.appliesTo_lambdaRule_iff _).2 (by simp),
          Catalog.Aws.count_lambdaRule _, _, rfl⟩
      rw [missingIds]
      change (wantedCount .builtIn Catalog.Aws.lambdaRule []).map _ = _
      rw [wanted]
      rfl
    rw [expand, due, applyRules, missing]
    rfl
  refine ⟨[.sort, .expand .builtIn],
    ⟨addChildren { lone "fn" "Lambda" with ordered := true } Catalog.Aws.lambdaRule "fn"
      ["fn-iamrole-1"], some { lone "fn" "Lambda" with ordered := true }⟩,
    [⟨"fn-iamrole-1", "fn"⟩], fresh_lone "fn" "Lambda", ?_, rfl, rfl, rfl,
    _, List.mem_singleton_self _, by decide⟩
  rw [← expanded]
  rfl

end CloudPlan.Architecture
