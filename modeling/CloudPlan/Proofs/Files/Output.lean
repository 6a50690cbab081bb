import CloudPlan.Proofs.Files.Tree

/-!
# Files below a directory

A file with a path that leads elsewhere is refused before a file system is asked for anything.
Any other file is placed in the directory, along the names of its path: nothing is asked for but
directories on the way there and the file itself, so in a tree nothing else changes.
-/

namespace CloudPlan

/-- A path leads elsewhere than down, or nowhere at all: it is empty, starts at the root, or has two
dots between its slashes. -/
def Path.Escapes (path : String) : Prop :=
  path = "" ∨ path.toList.head? = some '/' ∨ ['.', '.'] ∈ path.toList.splitOn '/'

instance (path : String) : Decidable (Path.Escapes path) :=
  inferInstanceAs (Decidable (_ ∨ _ ∨ _))

theorem Path.escapes_iff_components (path : String) :
    Escapes path ↔ path = "" ∨ .root ∈ components path ∨ .parent ∈ components path := by
  rw [Escapes, root_mem_components_iff, parent_mem_components_iff, isAbsolute, beq_iff_eq,
    parts_eq_splitOn]

theorem Path.isConfined_iff_not_escapes (path : String) :
    isConfined path = true ↔ ¬Escapes path := by
  rw [isConfined_iff, escapes_iff_components, not_or, not_or]

/-! ## What is asked of a file system -/

namespace FileSystem

variable {m : Type → Type} {one other : FileSystem m} {path : String}

/-- Two file systems do the same at a path and on the way to it. -/
structure AgreeAt (one other : FileSystem m) (path : String) : Prop where
  /-- They make the same of directories on the way. -/
  makeDirectory : ∀ ancestor, Path.IsAbove ancestor path →
    one.makeDirectory ancestor = other.makeDirectory ancestor
  /-- They find the same directories on the way. -/
  isDirectory : ∀ ancestor, Path.IsAbove ancestor path →
    one.isDirectory ancestor = other.isDirectory ancestor
  /-- They write the same at the path. -/
  write : ∀ content, one.write path content = other.write path content

variable [Monad m]

theorem AgreeAt.settle
    (agree : AgreeAt one other path)
    {ancestor : String}
    (above : Path.IsAbove ancestor path) :
    @settle m _ one ancestor = @settle m _ other ancestor := by
  funext attempt
  cases attempt with
  | ok made => rfl
  | error error =>
      unfold FileSystem.settle
      rw [agree.isDirectory ancestor above]

/-- Directories on the way are made by what file systems do on the way. -/
theorem AgreeAt.makeDirectories
    (agree : AgreeAt one other path)
    {found : List Path.Component}
    (begins : found.reverse <+: (Path.components path).dropLast) :
    @makeDirectories m _ one found = @makeDirectories m _ other found := by
  induction found with
  | nil => rfl
  | cons last parents inductionHypothesis =>
      have above : Path.IsAbove (Path.ofComponents (last :: parents).reverse) path :=
        Path.isAbove_ofComponents (by simp) begins
      rw [List.reverse_cons] at begins
      unfold FileSystem.makeDirectories
      dsimp only
      rw [agree.makeDirectory _ above, agree.settle above,
        inductionHypothesis ((List.prefix_append _ _).trans begins)]

end FileSystem

/-- A file is placed by what a file system does at its path and on the way to it. -/
theorem GeneratedFile.place_congr
    {m : Type → Type}
    [Monad m]
    {one other : FileSystem m}
    {path : String}
    (agree : one.AgreeAt other path)
    (content : String) :
    @place m _ one path content = @place m _ other path content := by
  have parents : @FileSystem.makeParents m _ one path = @FileSystem.makeParents m _ other path :=
    agree.makeDirectories (by rw [List.reverse_reverse]; exact List.prefix_refl _)
  unfold place
  rw [parents, agree.write]

/-! ## What changes in a tree -/

namespace FileTree

/-- The places where trees differ that directories on the way to a path are made in. -/
def MakesWay (path : String) (before after : FileTree) : Prop :=
  ∀ names, after.held names = before.held names ∨
    before.held names = .nothing ∧ after.held names = .directory ∧
      ∃ ancestor, Path.IsAbove ancestor path ∧ namesOf ancestor = .ok names

namespace MakesWay

variable {path : String} {before between after tree : FileTree}

theorem refl (path : String) (tree : FileTree) : MakesWay path tree tree :=
  fun _ => Or.inl rfl

theorem trans
    (first : MakesWay path before between)
    (second : MakesWay path between after) :
    MakesWay path before after := by
  intro names
  rcases second names with same | ⟨wasNothing, isDirectory, leads⟩
  · rw [same]
    exact first names
  · rcases first names with same | ⟨_, wasDirectory, _⟩
    · exact Or.inr ⟨same ▸ wasNothing, isDirectory, leads⟩
    · rw [wasDirectory] at wasNothing
      contradiction

end MakesWay

/-- An action does nothing in a tree but to make directories on the way to a path. -/
def OnlyMakesWay {α : Type} (path : String) (action : StateM FileTree α) : Prop :=
  ∀ tree, MakesWay path tree (action.run tree).2

namespace OnlyMakesWay

variable {α β : Type} {path : String}

theorem pure (path : String) (value : α) : OnlyMakesWay path (Pure.pure value) :=
  MakesWay.refl path

theorem bind
    {action : StateM FileTree α}
    {next : α → StateM FileTree β}
    (first : OnlyMakesWay path action)
    (later : ∀ result, OnlyMakesWay path (next result)) :
    OnlyMakesWay path (action >>= next) :=
  fun tree => (first tree).trans (later _ _)

/-- Making one directory on the way makes way. -/
theorem makeDirectory
    {ancestor : String}
    (above : Path.IsAbove ancestor path) :
    OnlyMakesWay path (FileSystem.makeDirectory ancestor) := by
  intro tree
  change MakesWay path tree (tree.commit (tree.withDirectory ancestor)).2
  cases outcome : tree.withDirectory ancestor with
  | error error => exact MakesWay.refl path tree
  | ok after =>
      obtain ⟨made, areNames, nothing, changes⟩ := held_of_withDirectory outcome
      intro names
      change after.held names = _ ∨ _ ∧ after.held names = _ ∧ _
      rw [changes]
      by_cases isMade : names = made
      · subst isMade
        exact Or.inr ⟨nothing, if_pos rfl, ancestor, above, areNames⟩
      · exact Or.inl (if_neg isMade)

theorem settle
    (path ancestor : String)
    (attempt : Except FileError Unit) :
    OnlyMakesWay path (FileSystem.settle ancestor attempt) := by
  unfold FileSystem.settle
  cases attempt with
  | ok made => exact pure path _
  | error error =>
      have looks : OnlyMakesWay path (FileSystem.isDirectory ancestor) := MakesWay.refl path
      refine bind looks fun isThere => ?_
      split
      next => exact pure path _
      next => exact pure path _

/-- Making all directories on the way makes way. -/
theorem makeDirectories
    {found : List Path.Component}
    (begins : found.reverse <+: (Path.components path).dropLast) :
    OnlyMakesWay path (FileSystem.makeDirectories found) := by
  induction found with
  | nil => exact pure path _
  | cons last parents inductionHypothesis =>
      have above : Path.IsAbove (Path.ofComponents (last :: parents).reverse) path :=
        Path.isAbove_ofComponents (by simp) begins
      rw [List.reverse_cons] at begins
      have parentsMakeWay := inductionHypothesis ((List.prefix_append _ _).trans begins)
      unfold FileSystem.makeDirectories
      refine bind (makeDirectory above) fun attempt => ?_
      split
      next =>
        refine bind parentsMakeWay fun outcome => ?_
        split
        next => exact pure path _
        next => exact bind (makeDirectory above) fun again => settle path _ again
      next => exact settle path _ _

end OnlyMakesWay

/-- Trees differ in nothing but a file where a path leads and directories on the way to it. -/
def Places (path content : String) (before after : FileTree) : Prop :=
  ∀ names, after.held names = before.held names ∨
    (namesOf path = .ok names ∧ before.held names ≠ .directory ∧
      after.held names = .file content) ∨
    (before.held names = .nothing ∧ after.held names = .directory ∧
      ∃ ancestor, Path.IsAbove ancestor path ∧ namesOf ancestor = .ok names)

theorem MakesWay.places
    {path : String}
    {before after : FileTree}
    (makesWay : MakesWay path before after)
    (content : String) :
    Places path content before after :=
  fun names => (makesWay names).imp_right Or.inr

/-- A file is written behind the directories on the way to it, if they can be made. -/
theorem run_place
    (path content : String)
    (before : FileTree) :
    (GeneratedFile.place path content : StateM FileTree _).run before =
      match (FileSystem.makeParents path : StateM FileTree _).run before with
      | (.error error, between) => (.error error, between)
      | (.ok (), between) => between.commit (between.withFile path content) := by
  unfold GeneratedFile.place
  rw [StateT.run_bind]
  split
  next error between parents => rw [parents]; rfl
  next between parents => rw [parents]; rfl

/-- Placing a file changes nothing but the file and directories on the way to it, and the file is
there if that is what is told. -/
theorem places_of_run_place
    {path content : String}
    {before after : FileTree}
    {outcome : Except FileError Unit}
    (isRun : (GeneratedFile.place path content : StateM FileTree _).run before = (outcome, after)) :
    Places path content before after ∧
      (outcome = .ok () →
        ∃ names, namesOf path = .ok names ∧ after.held names = .file content) := by
  have way : OnlyMakesWay path (FileSystem.makeParents path) :=
    OnlyMakesWay.makeDirectories (by rw [List.reverse_reverse]; exact List.prefix_refl _)
  have wayMade := way before
  rw [run_place] at isRun
  split at isRun
  next error between parents =>
    rw [parents] at wayMade
    obtain ⟨rfl, rfl⟩ := Prod.mk.inj isRun
    exact ⟨wayMade.places content, by simp⟩
  next between parents =>
    rw [parents] at wayMade
    cases written : between.withFile path content with
    | error error =>
        rw [written] at isRun
        obtain ⟨rfl, rfl⟩ := Prod.mk.inj isRun
        exact ⟨wayMade.places content, by simp⟩
    | ok changed =>
        rw [written] at isRun
        obtain ⟨rfl, rfl⟩ := Prod.mk.inj isRun
        obtain ⟨target, areNames, noDirectory, changes⟩ := held_of_withFile written
        refine ⟨?_, fun _ => ⟨target, areNames, by rw [changes, if_pos rfl]⟩⟩
        intro names
        rw [changes]
        by_cases isTarget : names = target
        · subst isTarget
          refine Or.inr (Or.inl ⟨areNames, ?_, if_pos rfl⟩)
          rcases wayMade names with same | ⟨nothing, _⟩
          · rwa [← same]
          · simp [nothing]
        · rw [if_neg isTarget]
          exact wayMade.places content names

/-! ## Names from the top -/

theorem follow_append
    (passed : List String)
    (front back : List Path.Component) :
    follow passed (front ++ back) =
      (follow passed front).bind fun names => follow names.reverse back := by
  induction front generalizing passed with
  | nil => simp [follow]
  | cons first rest inductionHypothesis =>
      cases first with
      | root => rfl
      | current => exact inductionHypothesis passed
      | normal name => exact inductionHypothesis (name :: passed)
      | parent =>
          cases passed with
          | nil => rfl
          | cons last before => exact inductionHypothesis before

theorem follow_names
    (passed found : List String) :
    follow passed (found.map Path.Component.normal) = some (passed.reverse ++ found) := by
  induction found generalizing passed with
  | nil => simp [follow]
  | cons name rest inductionHypothesis =>
      rw [List.map_cons, follow, inductionHypothesis]
      simp

theorem follow_of_namesOf
    {path : String}
    {names : List String}
    (areNames : namesOf path = .ok names) :
    follow [] (Path.components path) = some names := by
  unfold namesOf at areNames
  split_ifs at areNames
  split at areNames
  next found isFound =>
    obtain rfl := Except.ok.inj areNames
    exact isFound
  next => contradiction

/-- A path that leads nowhere but down leads on, joined to a directory, from the names that the
directory leads along. -/
theorem follow_join
    (directory : String)
    {path : String}
    (confined : Path.isConfined path = true) :
    follow [] (Path.components (Path.join directory path)) =
      (follow [] (Path.components directory)).map (· ++ Path.names path) := by
  obtain ⟨front, joined, isFront⟩ := Path.exists_components_join directory confined
  have sameNames : follow [] front = follow [] (Path.components directory) := by
    rcases isFront with rfl | rfl <;> rfl
  rw [joined, follow_append, sameNames]
  cases follow [] (Path.components directory) with
  | none => rfl
  | some names => simp [follow_names]

end FileTree

/-! ## Writing below a directory -/

namespace GeneratedFile

theorem writeTo_of_escapes
    {m : Type → Type}
    [Monad m]
    [FileSystem m]
    (directory : String)
    {file : GeneratedFile}
    (escapes : Path.Escapes file.path) :
    file.writeTo directory = (pure (.error (.outside file.path)) : m _) := by
  have notConfined : ¬Path.isConfined file.path = true := by
    rw [Path.isConfined_iff_not_escapes]
    exact not_not_intro escapes
  unfold writeTo target
  rw [if_neg notConfined]

theorem writeTo_of_not_escapes
    {m : Type → Type}
    [Monad m]
    [FileSystem m]
    (directory : String)
    {file : GeneratedFile}
    (stays : ¬Path.Escapes file.path) :
    file.writeTo directory = (do
      let outcome ← place (Path.join directory file.path) file.content
      return (outcome.mapError .system).map fun _ => Path.join directory file.path : m _) := by
  unfold writeTo target
  rw [if_pos ((Path.isConfined_iff_not_escapes file.path).2 stays)]
  dsimp only
  congr 1
  funext outcome
  cases outcome with
  | error error => rfl
  | ok placed => rfl

/-- In a tree a file that is not refused is placed, and it is told how that goes. -/
theorem exists_run_place
    (directory : String)
    {file : GeneratedFile}
    (stays : ¬Path.Escapes file.path)
    {before after : FileTree}
    {outcome : Except WriteError String}
    (isRun : (file.writeTo directory : StateM FileTree _).run before = (outcome, after)) :
    ∃ placed, (place (Path.join directory file.path) file.content :
        StateM FileTree _).run before = (placed, after) ∧
      (placed.mapError .system).map (fun _ => Path.join directory file.path) = outcome := by
  rw [writeTo_of_not_escapes directory stays, StateT.run_bind] at isRun
  obtain ⟨isOutcome, isAfter⟩ := Prod.mk.inj isRun
  exact ⟨_, Prod.ext rfl isAfter, isOutcome⟩

/-- Where writing a file changes a tree there is the file, or a directory on the way to it. -/
theorem changes_of_writeTo
    {directory : String}
    {file : GeneratedFile}
    {before after : FileTree}
    {outcome : Except WriteError String}
    (isRun : (file.writeTo directory : StateM FileTree _).run before = (outcome, after))
    {names : List String}
    (differs : after.held names ≠ before.held names) :
    ¬Path.Escapes file.path ∧ ∃ path,
      (path = Path.join directory file.path ∨
        Path.IsAbove path (Path.join directory file.path)) ∧
      FileTree.namesOf path = .ok names := by
  by_cases escapes : Path.Escapes file.path
  · rw [writeTo_of_escapes directory escapes] at isRun
    obtain ⟨_, rfl⟩ := Prod.mk.inj isRun
    exact absurd rfl differs
  · refine ⟨escapes, ?_⟩
    obtain ⟨_, isPlaced, _⟩ := exists_run_place directory escapes isRun
    rcases (FileTree.places_of_run_place isPlaced).1 names with
      same | ⟨areNames, _⟩ | ⟨_, _, ancestor, above, areNames⟩
    · exact absurd same differs
    · exact ⟨_, Or.inl rfl, areNames⟩
    · exact ⟨ancestor, Or.inr above, areNames⟩

/-- Where writing files changes a tree there is one of the files, or a directory on the way to
one. -/
theorem changes_of_writeAll
    {directory : String}
    {files : List GeneratedFile}
    {before after : FileTree}
    {outcome : Except WriteError (List String)}
    (isRun : (writeAll directory files : StateM FileTree _).run before = (outcome, after))
    {names : List String}
    (differs : after.held names ≠ before.held names) :
    ∃ file ∈ files, ¬Path.Escapes file.path ∧ ∃ path,
      (path = Path.join directory file.path ∨
        Path.IsAbove path (Path.join directory file.path)) ∧
      FileTree.namesOf path = .ok names := by
  induction files generalizing before outcome with
  | nil =>
      obtain ⟨_, rfl⟩ := Prod.mk.inj isRun
      exact absurd rfl differs
  | cons file rest inductionHypothesis =>
      rw [writeAll, StateT.run_bind] at isRun
      cases first : (file.writeTo directory : StateM FileTree _).run before with
      | mk written between =>
          rw [first] at isRun
          by_cases same : between.held names = before.held names
          · cases written with
            | error error =>
                obtain ⟨_, rfl⟩ := Prod.mk.inj isRun
                exact absurd same differs
            | ok path =>
                obtain ⟨_, isAfter⟩ := Prod.mk.inj isRun
                obtain ⟨other, member, changes⟩ :=
                  inductionHypothesis (Prod.ext rfl isAfter) (same ▸ differs)
                exact ⟨other, List.mem_cons_of_mem file member, changes⟩
          · exact ⟨file, List.mem_cons_self, changes_of_writeTo first same⟩

/-- A file whose path is empty, starts at the root or has two dots in it is refused, and no file
system is asked for anything.  Any other file is placed where the path leads from the directory,
along names that lead down: nothing but the file there and the directories on the way to it is
asked for, and in a tree nothing else changes. -/
theorem writeTo_stays_below
    (directory : String)
    (file : GeneratedFile) :
    let target := Path.join directory file.path
    (Path.Escapes file.path ↔ file.path = "" ∨
      .root ∈ Path.components file.path ∨ .parent ∈ Path.components file.path) ∧
    (Path.Escapes file.path →
      ∀ (m : Type → Type) [Monad m] [FileSystem m],
        file.writeTo directory = (pure (.error (.outside file.path)) : m _)) ∧
    (¬Path.Escapes file.path →
      (∀ name ∈ Path.names file.path, Path.IsName name) ∧
      Path.normalize target =
        Path.normalize directory ++ (Path.names file.path).map .normal ∧
      (∀ (m : Type → Type) [Monad m] [FileSystem m],
        file.writeTo directory = (do
          let outcome ← place target file.content
          return (outcome.mapError .system).map fun _ => target : m _)) ∧
      (∀ (m : Type → Type) [Monad m] (one other : FileSystem m), one.AgreeAt other target →
        @writeTo m _ one directory file = @writeTo m _ other directory file) ∧
      ∀ before outcome after,
        (file.writeTo directory : StateM FileTree _).run before = (outcome, after) →
          FileTree.Places target file.content before after ∧
          (∀ names, FileTree.namesOf target = .ok names →
            ∃ front, FileTree.follow [] (Path.components directory) = some front ∧
              names = front ++ Path.names file.path) ∧
          ∀ path, outcome = .ok path → path = target ∧
            ∃ names, FileTree.namesOf target = .ok names ∧
              after.held names = .file file.content) := by
  intro target
  refine ⟨Path.escapes_iff_components file.path,
    fun escapes m _ _ => writeTo_of_escapes directory escapes, fun stays => ?_⟩
  have confined := (Path.isConfined_iff_not_escapes file.path).2 stays
  refine ⟨fun name => Path.isName_of_mem_names, Path.normalize_join directory confined,
    fun m _ _ => writeTo_of_not_escapes directory stays, ?_, ?_⟩
  · intro m _ one other agree
    rw [@writeTo_of_not_escapes m _ one directory file stays,
      @writeTo_of_not_escapes m _ other directory file stays, place_congr agree]
  · intro before outcome after isRun
    obtain ⟨placed, isPlaced, rfl⟩ := exists_run_place directory stays isRun
    obtain ⟨places, thenThere⟩ := FileTree.places_of_run_place isPlaced
    refine ⟨places, ?_, ?_⟩
    · intro names areNames
      have leads := FileTree.follow_of_namesOf areNames
      rw [FileTree.follow_join directory confined] at leads
      obtain ⟨front, isFront, rfl⟩ := Option.map_eq_some_iff.1 leads
      exact ⟨front, isFront, rfl⟩
    · intro path isPath
      obtain ⟨_, isPlaced, rfl⟩ := map_eq_ok_iff.1 isPath
      exact ⟨rfl, thenThere (mapError_eq_ok_iff.1 isPlaced)⟩

/-- A file in a directory of its own, with a path that could be shorter. -/
def netModule : GeneratedFile :=
  ⟨"./modules//net.tf", "# net\n"⟩

/-- An output directory with a file from before. -/
def formerOutput : FileTree :=
  .directory [("out", .directory [("old.tf", .file "# old\n")])]

/-- Trees that cannot be read, and in which only one path can be written. -/
@[reducible] def sealedTrees : FileSystem (StateM FileTree) :=
  { (inferInstance : FileSystem (StateM FileTree)) with
    read _ tree := (.error .notFound, tree)
    names _ tree := ([], tree)
    write path content tree :=
      if path = "out/./modules//net.tf" then tree.commit (tree.withFile path content)
      else (.error .notDirectory, tree) }

/-- The file is written in its directory, in sealed trees as in others, and the old file stays.
With two dots in its path it is refused. -/
theorem writeTo_stays_below_of_module :
    ¬Path.Escapes netModule.path ∧
    Path.normalize "out/./modules//net.tf" =
      [.normal "out"] ++ [.normal "modules", .normal "net.tf"] ∧
    @writeTo (StateM FileTree) _ sealedTrees "out/" netModule = netModule.writeTo "out/" ∧
    (∃ after, (netModule.writeTo "out/" : StateM FileTree _).run formerOutput =
        (.ok "out/./modules//net.tf", after) ∧
      FileTree.Places "out/./modules//net.tf" "# net\n" formerOutput after ∧
      (∃ names, FileTree.namesOf "out/./modules//net.tf" = .ok names ∧
        after.held names = .file "# net\n") ∧
      after.held ["out", "old.tf"] = .file "# old\n") ∧
    Path.Escapes "modules/../../net.tf" ∧
    (⟨"modules/../../net.tf", ""⟩ : GeneratedFile).writeTo "out/" =
      (pure (.error (.outside "modules/../../net.tf")) : StateM FileTree _) := by
  have stays : ¬Path.Escapes netModule.path := by decide
  have escapes : Path.Escapes "modules/../../net.tf" := by decide
  obtain ⟨_, _, below⟩ := writeTo_stays_below "out/" netModule
  obtain ⟨_, refused, _⟩ := writeTo_stays_below "out/" ⟨"modules/../../net.tf", ""⟩
  obtain ⟨_, leads, _, agrees, runs⟩ := below stays
  have agree : sealedTrees.AgreeAt inferInstance "out/./modules//net.tf" :=
    ⟨fun _ _ => rfl, fun _ _ => rfl, fun _ => rfl⟩
  obtain ⟨places, _, isThere⟩ := runs formerOutput _ _ rfl
  exact ⟨stays, leads, agrees _ _ _ agree, ⟨_, rfl, places, (isThere _ rfl).2, rfl⟩, escapes,
    refused escapes _⟩

end GeneratedFile

end CloudPlan
