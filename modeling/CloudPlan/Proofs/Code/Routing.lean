import CloudPlan.Proofs.Architecture.Session
import CloudPlan.Proofs.Code.Generation

/-!
# Blocks in files

A writer distributes blocks over files: each block is in the one file that it belongs in,
and in a file blocks stand in the order in which they came.  Entering the blocks one by one
comes to the same.  When an architecture has been sorted, the blocks of what has to be there
first therefore stand first in every file.
-/

namespace CloudPlan.Code

/-! ## Entering blocks -/

/-- Files with a block more, in the file with its path, or in a new one behind the others. -/
def enter (path : String) (block : Block) :
    List (String × List Block) → List (String × List Block)
  | [] => [(path, [block])]
  | (other, held) :: rest =>
    if other = path then (other, held ++ [block]) :: rest
    else (other, held) :: enter path block rest

/-- Entering a block changes what is under its path, which is nothing if the path is new. -/
theorem enter_map
    {path : String}
    {block : Block}
    {keys : List String}
    {held : String → List Block}
    (apart : keys.Nodup)
    (new : path ∉ keys → held path = []) :
    enter path block (keys.map fun key => (key, held key)) =
      (if path ∈ keys then keys else keys ++ [path]).map fun key =>
        (key, held key ++ if path = key then [block] else []) := by
  induction keys with
  | nil => simp [enter, new]
  | cons key rest inductionHypothesis =>
      obtain ⟨absent, restApart⟩ := List.nodup_cons.1 apart
      rw [List.map_cons, enter]
      by_cases isKey : key = path
      · subst isKey
        have others : ∀ other ∈ rest,
            (other, held other) = (other, held other ++ if key = other then [block] else []) := by
          intro other isOther
          have different : key ≠ other := fun same => absent (same ▸ isOther)
          simp [different]
        simpa using List.map_congr_left others
      · have different : path ≠ key := Ne.symm isKey
        have newInRest : path ∉ rest → held path = [] := by
          intro notInRest
          exact new (by simp [different, notInRest])
        rw [if_neg isKey, inductionHypothesis restApart newInRest]
        by_cases known : path ∈ rest
        · simp [known, different]
        · simp [known, different]

namespace Writer

variable {writer : Writer} {blocks : List Block} {path : String}

/-- The files when blocks are entered one by one; those that have an order are there before. -/
def entered (writer : Writer) (blocks : List Block) : List (String × List Block) :=
  blocks.foldl (fun files block => enter (writer.fileFor block) block files)
    (writer.fileOrder.eraseDups.map fun path => (path, []))

theorem blocksIn_concat (block : Block) :
    writer.blocksIn (blocks ++ [block]) path =
      writer.blocksIn blocks path ++ if writer.fileFor block = path then [block] else [] := by
  rw [blocksIn, List.filter_append, List.filter_singleton, ← blocksIn]
  simp

theorem blocksIn_eq_nil_iff :
    writer.blocksIn blocks path = [] ↔ path ∉ blocks.map writer.fileFor := by
  simp [blocksIn, List.filter_eq_nil_iff]

theorem mem_paths_iff :
    path ∈ writer.paths blocks ↔ path ∈ writer.fileOrder ∨ path ∈ blocks.map writer.fileFor := by
  rw [paths, List.mem_eraseDups, List.mem_append]

theorem paths_concat (block : Block) :
    writer.paths (blocks ++ [block]) =
      if writer.fileFor block ∈ writer.paths blocks then writer.paths blocks
      else writer.paths blocks ++ [writer.fileFor block] := by
  simp only [paths, List.map_append, List.map_singleton, ← List.append_assoc,
    eraseDups_concat, List.mem_eraseDups]

/-- Blocks that are entered one by one come to stand in their files, in their order. -/
theorem entered_eq (blocks : List Block) :
    writer.entered blocks =
      (writer.paths blocks).map fun path => (path, writer.blocksIn blocks path) := by
  induction blocks using List.reverseRecOn with
  | nil => simp [entered, paths, blocksIn]
  | append_singleton front block inductionHypothesis =>
      have new : writer.fileFor block ∉ writer.paths front →
          writer.blocksIn front (writer.fileFor block) = [] := by
        intro unmet
        exact blocksIn_eq_nil_iff.2 fun met => unmet (mem_paths_iff.2 (Or.inr met))
      have apart : (writer.paths front).Nodup := nodup_eraseDups _
      rw [entered, List.foldl_concat, ← entered, inductionHypothesis,
        enter_map apart new, paths_concat]
      simp only [blocksIn_concat]

theorem route_eq_entered (blocks : List Block) :
    writer.route blocks = (writer.entered blocks).filter (!·.2.isEmpty) := by
  rw [entered_eq, route]

/-! ## Distributing blocks -/

/-- Files hold blocks as a writer wants it. -/
structure Distributes (writer : Writer) (blocks : List Block)
    (files : List (String × List Block)) : Prop where
  /-- They are what is not empty when the blocks have been entered one by one. -/
  entered : files = (writer.entered blocks).filter (!·.2.isEmpty)
  /-- No two files have the same path. -/
  apart : (files.map (·.1)).Nodup
  /-- No file is empty. -/
  filled : ∀ file ∈ files, file.2 ≠ []
  /-- Every block has a file to be in. -/
  covered : ∀ block ∈ blocks, writer.fileFor block ∈ files.map (·.1)
  /-- A file holds the blocks that belong in it, in their order. -/
  kept : ∀ file ∈ files, file.2 = blocks.filter (writer.fileFor · = file.1)
  /-- All files together hold every block once. -/
  complete : (files.flatMap (·.2)).Perm blocks
  /-- First come the files that have an order, and then the others as they are met. -/
  ordered : files.map (·.1) =
    writer.fileOrder.eraseDups.filter (· ∈ blocks.map writer.fileFor) ++
      ((blocks.map writer.fileFor).filter (· ∉ writer.fileOrder)).eraseDups

theorem route_eq (blocks : List Block) :
    writer.route blocks =
      ((writer.paths blocks).filter (· ∈ blocks.map writer.fileFor)).map
        fun path => (path, writer.blocksIn blocks path) := by
  rw [route, List.filter_map]
  congr 1
  apply List.filter_congr
  intro path _
  rw [Bool.eq_iff_iff, Function.comp_apply, decide_eq_true_iff, ← not_iff_not,
    ← blocksIn_eq_nil_iff]
  simp

theorem map_fst_route (blocks : List Block) :
    (writer.route blocks).map (·.1) =
      (writer.paths blocks).filter (· ∈ blocks.map writer.fileFor) := by
  rw [route_eq, List.map_map]
  exact List.map_id _

theorem mem_map_fst_route_iff :
    path ∈ (writer.route blocks).map (·.1) ↔ path ∈ blocks.map writer.fileFor := by
  rw [map_fst_route, List.mem_filter, decide_eq_true_iff]
  exact and_iff_right_of_imp fun isFile => mem_paths_iff.2 (Or.inr isFile)

theorem paths_eq (blocks : List Block) :
    writer.paths blocks = writer.fileOrder.eraseDups ++
      ((blocks.map writer.fileFor).filter (· ∉ writer.fileOrder)).eraseDups := by
  rw [paths, List.eraseDups_append]
  congr 2
  apply List.filter_congr
  intro path _
  simp

theorem distributes_route (writer : Writer) (blocks : List Block) :
    writer.Distributes blocks (writer.route blocks) := by
  have apart : ((writer.route blocks).map (·.1)).Nodup := by
    rw [map_fst_route]
    exact (nodup_eraseDups _).filter _
  have covered : ∀ block ∈ blocks, writer.fileFor block ∈ (writer.route blocks).map (·.1) :=
    fun block member => mem_map_fst_route_iff.2 (List.mem_map_of_mem member)
  have held : ∀ file ∈ writer.route blocks, file.2 = writer.blocksIn blocks file.1 := by
    rw [route_eq, List.forall_mem_map]
    exact fun _ _ => rfl
  have kept : ∀ file ∈ writer.route blocks,
      file.2 = blocks.filter (writer.fileFor · = file.1) := held
  constructor
  case entered => exact route_eq_entered blocks
  case apart => exact apart
  case covered => exact covered
  case kept => exact kept
  case filled =>
    intro file member empty
    have isFile := mem_map_fst_route_iff.1 (List.mem_map_of_mem member)
    exact blocksIn_eq_nil_iff.1 ((held file member).symm.trans empty) isFile
  case complete =>
    have byPath : (writer.route blocks).flatMap (·.2) =
        ((writer.route blocks).map (·.1)).flatMap fun path =>
          blocks.filter (writer.fileFor · = path) := by
      rw [List.flatMap_map]
      exact List.flatMap_congr kept
    rw [byPath]
    exact flatMap_filter_perm apart covered
  case ordered =>
    rw [map_fst_route, paths_eq, List.filter_append]
    congr 1
    rw [List.filter_eq_self]
    intro path member
    rw [List.mem_eraseDups] at member
    exact decide_eq_true (List.mem_of_mem_filter member)

end Writer

/-! ## Where blocks come from -/

/-- Everything that is marked with one mark stands before everything marked with another. -/
def StandsBefore {μ α : Type} (first second : μ) (marked : List (μ × α)) : Prop :=
  marked.Pairwise fun left right => ¬(left.1 = second ∧ right.1 = first)

namespace Registry

variable (registry : Registry) (engine : String) (writer : Writer)
  (architecture : Architecture)

/-- The blocks of an architecture, each with the id of the resource that it describes; those
that every project has come without one. -/
def markedBlocks : List (Option String × Block) :=
  (writer.preamble architecture).map (none, ·) ++
    architecture.resources.flatMap fun resource =>
      (registry.blocksOf engine (context writer architecture) resource).map (some resource.id, ·)

/-- The blocks in a file with the ids of their resources. -/
def markedBlocksIn (path : String) : List (Option String × Block) :=
  (registry.markedBlocks engine writer architecture).filter (writer.fileFor ·.2 = path)

theorem map_snd_markedBlocks :
    (registry.markedBlocks engine writer architecture).map (·.2) =
      registry.projectBlocks engine writer architecture := by
  simp [markedBlocks, projectBlocks, List.map_flatMap, Function.comp_def]

theorem map_snd_markedBlocksIn (path : String) :
    (registry.markedBlocksIn engine writer architecture path).map (·.2) =
      (registry.projectBlocks engine writer architecture).filter (writer.fileFor · = path) := by
  rw [← map_snd_markedBlocks, List.filter_map]
  rfl

variable {registry engine writer architecture}

/-- Blocks stand as their resources do. -/
theorem standsBefore_markedBlocks
    {before after : String}
    (distinct : architecture.ids.Nodup)
    (inOrder : [before, after].Sublist architecture.ids) :
    StandsBefore (some before) (some after)
      (registry.markedBlocks engine writer architecture) := by
  have different : before ≠ after := by
    simpa using distinct.sublist inOrder
  have resources := List.pairwise_map.1 (pairwise_of_pair_sublist distinct inOrder)
  unfold StandsBefore markedBlocks
  refine List.pairwise_append.2 ⟨?_, List.pairwise_flatMap.2 ⟨?_, ?_⟩, ?_⟩
  · exact List.pairwise_map.2 (List.pairwise_of_forall (by simp))
  · intro resource _
    refine List.pairwise_map.2 (List.pairwise_of_forall fun _ _ => ?_)
    rintro ⟨isAfter, isBefore⟩
    exact different (Option.some.inj (isBefore.symm.trans isAfter))
  · refine resources.imp fun {left right} apart => ?_
    rw [List.forall_mem_map]
    intro _ _
    rw [List.forall_mem_map]
    intro _ _
    rintro ⟨isAfter, isBefore⟩
    exact apart ⟨Option.some.inj isAfter, Option.some.inj isBefore⟩
  · simp

/-- What is marked stands in a file as it stands among all blocks. -/
theorem standsBefore_markedBlocksIn
    {first second : Option String}
    (stands : StandsBefore first second (registry.markedBlocks engine writer architecture))
    (path : String) :
    StandsBefore first second (registry.markedBlocksIn engine writer architecture path) :=
  List.Pairwise.sublist List.filter_sublist stands

/-- When an architecture is generated all its blocks are distributed over files as the writer wants
it, and if it comes out of a sort then in every file the blocks of what has to be there first
stand before those of what comes later. -/
theorem files_keep_provisioning_order
    {files : List GeneratedFile}
    (succeeds : (registry.generate engine architecture).outcome = .ok files) :
    ∃ writer routed, registry.writer? engine = some writer ∧
      registry.MapsAll engine (context writer architecture) architecture.resources ∧
      routed = writer.route (registry.projectBlocks engine writer architecture) ∧
      files = routed.map (fun file => ⟨file.1, writer.render file.2⟩) ∧
      writer.Distributes (registry.projectBlocks engine writer architecture) routed ∧
      ∀ unsorted : Architecture, unsorted.ids.Nodup → unsorted.sort = .ok architecture →
        ∃ edges, architecture.provisioningEdges = .ok edges ∧
          ∀ file ∈ routed,
            (registry.markedBlocksIn engine writer architecture file.1).map (·.2) = file.2 ∧
            ∀ edge ∈ edges, StandsBefore (some edge.before) (some edge.after)
              (registry.markedBlocksIn engine writer architecture file.1) := by
  obtain ⟨writer, isWriter, mapped, made⟩ := generate_eq_ok_iff.1 succeeds
  have distributes :=
    writer.distributes_route (registry.projectBlocks engine writer architecture)
  refine ⟨writer, _, isWriter, mapped, rfl, made.symm, distributes, ?_⟩
  intro unsorted distinctBefore sorts
  have closed := Architecture.closed_of_sort sorts
  have resources := closed.perm_of_sort distinctBefore sorts
  have distinct : architecture.ids.Nodup := (resources.map _).nodup_iff.2 distinctBefore
  refine ⟨_, Architecture.provisioningEdges_of_closed (closed.of_perm resources), ?_⟩
  intro file member
  constructor
  · rw [map_snd_markedBlocksIn, distributes.kept file member]
  · intro edge isEdge
    have inOrder := closed.inOrder_of_sort distinctBefore sorts edge.before edge.after
      ((Architecture.mem_linkEdges_iff edge).1 isEdge)
    exact standsBefore_markedBlocksIn (standsBefore_markedBlocks distinct inOrder) file.1

/-- Two resources, of which the one that stands first needs the other one. -/
def machineOnDisk : Architecture where
  provider := .aws
  region := ""
  resources := [
    { Resource.ofType "web" "Machine" with dependsOn := [⟨"disk", .uses, .explicit⟩] },
    Resource.ofType "disk" "Disk"]

/-- A resource in two blocks. -/
def outline : Mapper := fun resource _ =>
  .ok [Block.resource resource.typeName resource.id, Block.output resource.id]

/-- An engine with a file for each type of blocks; of one file it is said twice that it comes
first. -/
def outlines : Registry where
  writers := [{
    engine := "outline"
    preamble := fun _ => [Block.ofVariable "region"]
    fileFor := (·.type)
    fileOrder := ["output", "resource", "output"]
    render := fun blocks => String.join (blocks.flatMap (·.labels)) }]
  mappers := [⟨"outline", "Machine", outline⟩, ⟨"outline", "Disk", outline⟩]

theorem files_of_outlines :
    machineOnDisk.ids.Nodup ∧
      ∃ sorted, machineOnDisk.sort = .ok sorted ∧
        (outlines.generate "outline" sorted).outcome =
          .ok [⟨"output", "diskweb"⟩, ⟨"resource", "DiskdiskMachineweb"⟩, ⟨"variable", "region"⟩] ∧
        ∃ writer, outlines.writer? "outline" = some writer ∧
          StandsBefore (some "disk") (some "web")
            (outlines.markedBlocksIn "outline" writer sorted "resource") := by
  have distinct : machineOnDisk.ids.Nodup := by decide
  obtain ⟨sorted, sorts, files, edges⟩ : ∃ sorted, machineOnDisk.sort = .ok sorted ∧
      (outlines.generate "outline" sorted).outcome =
        .ok [⟨"output", "diskweb"⟩, ⟨"resource", "DiskdiskMachineweb"⟩, ⟨"variable", "region"⟩] ∧
      sorted.provisioningEdges = .ok [⟨"disk", "web"⟩] :=
    ⟨_, rfl, rfl, rfl⟩
  obtain ⟨writer, routed, isWriter, -, -, made, -, inOrder⟩ := files_keep_provisioning_order files
  obtain ⟨_, areEdges, stand⟩ := inOrder machineOnDisk distinct sorts
  obtain rfl := Except.ok.inj (edges.symm.trans areEdges)
  have isFile : "resource" ∈ routed.map (·.1) := by
    have paths := congrArg (List.map (·.path)) made
    rw [List.map_map] at paths
    exact paths ▸ by decide
  obtain ⟨file, member, isPath⟩ := List.mem_map.1 isFile
  have atPath := (stand file member).2 ⟨"disk", "web"⟩ (List.mem_singleton_self _)
  exact ⟨distinct, sorted, sorts, files, writer, isWriter, isPath ▸ atPath⟩

end Registry

end CloudPlan.Code
