import ServiceStubs.Proofs.Files.Beside
import ServiceStubs.Proofs.Project.Delivery

/-!
# Replacing a directory

What is in the tree after a directory has been replaced, or after that has failed.

* `replaceDirectory_grounded` says that trees stay grounded;
* `stageFiles_delivers` writes the new files beside the directory, and `swapIn_replaces` puts them in its place;
* `replaceDirectory_outcome` is the whole: if it succeeds, there are exactly the new files, if it fails, what
  was there before, unless this was a file. That is moved aside for good.
-/

namespace ServiceStubs

open FileTree

variable {P : FileTree → Prop} {t t' : FileTree} {place : TreePlace} {directory path name : String}
  {files : List OutputFile}

/-! ## Steps -/

theorem start_isPresent (path : String) (t : FileTree) :
    start (isPresent path : TreeWork Bool) t = (.ok (t.kind? path).isSome, t) := rfl

theorem start_rename (path path' : String) (t : FileTree) :
    start (FileStore.rename path path' : TreeWork Bool) t =
      match t.rename? path path' with
      | some t' => (.ok true, t')
      | none => (.ok false, t) :=
  start_attempt (fun t => t.rename? path path') t

/-- Removing something that is beside a place, if it is there: a file is not removed, and nothing goes on. -/
theorem removeIfPresent_cases (hgrounded : t.Grounded) (hsited : t.Sited path place) (hne : place ≠ []) :
    ((∃ content, t.entry? place = some (.file content)) ∧
        start (removeIfPresent path : TreeWork Unit) t = (.error (.refused (.removing path)), t)) ∨
      ∃ t', start (removeIfPresent path : TreeWork Unit) t = (.ok (), t') ∧ t'.working = t.working ∧
        (∀ s, t'.entry? (place ++ s) = none) ∧ (∀ q, ¬place <+: q → t'.entry? q = t.entry? q) ∧
        ∀ content, t.entry? place ≠ some (.file content) := by
  unfold removeIfPresent
  rw [start_bind, start_isPresent, hsited.kind?_eq]
  rcases hentry : t.entry? place with _ | entry
  · exact .inr ⟨t, rfl, rfl, hgrounded.free hentry, fun _ _ => rfl, by simp⟩
  · have hremove := hsited.removeDirectory?_eq
    unfold isDirectory at hremove
    rw [hentry] at hremove
    simp only [Option.map_some, Option.isSome_some, if_true]
    rw [start_demand, start_removeDirectory, hremove]
    cases entry with
    | file content => exact .inl ⟨⟨content, rfl⟩, rfl⟩
    | directory =>
      refine .inr ⟨t.cut place, rfl, rfl, fun s => ?_, fun q hq => at_cut hq, by simp⟩
      exact at_cut_below (List.prefix_append place s) (by simp [hne])

/-! ## Grounded trees -/

theorem demand_maintains {activity : Activity} {operation : TreeWork Bool} (h : Maintains P operation) :
    Maintains P (demand activity operation) := by
  unfold demand
  refine h.bind fun done => ?_
  cases done with
  | true => exact .pure _
  | false => exact .throw _

theorem isPresent_maintains (path : String) : Maintains P (isPresent path : TreeWork Bool) :=
  fun _ h => h

theorem orUndo_maintains {operation undo : TreeWork Unit} (h : Maintains P operation) (hundo : Maintains P undo) :
    Maintains P (orUndo operation undo) :=
  h.tryCatch fun failure => hundo.bind fun _ => .throw failure

theorem makeDirectories_maintains (path : String) :
    Maintains Grounded (FileStore.makeDirectories path : TreeWork Bool) := by
  intro t h
  rw [start_makeDirectories]
  exact makeDirectories_grounded h path

theorem writeText_maintains (path text : String) :
    Maintains Grounded (FileStore.writeText path text : TreeWork Bool) := by
  intro t h
  rw [start_writeText]
  rcases hwrite : t.writeText? path text with _ | t'
  · exact h
  · exact writeText?_grounded h hwrite

theorem removeDirectory_maintains (path : String) :
    Maintains Grounded (FileStore.removeDirectory path : TreeWork Bool) := by
  intro t h
  rw [start_removeDirectory]
  rcases hremove : t.removeDirectory? path with _ | t'
  · exact h
  · exact removeDirectory?_grounded h hremove

theorem rename_maintains (path path' : String) :
    Maintains Grounded (FileStore.rename path path' : TreeWork Bool) := by
  intro t h
  rw [start_rename]
  rcases hrename : t.rename? path path' with _ | t'
  · exact h
  · exact rename?_grounded h hrename

theorem makeParents_maintains (path : String) : Maintains Grounded (makeParents path : TreeWork Unit) := by
  unfold makeParents
  split
  · split
    · exact .pure _
    · exact demand_maintains (makeDirectories_maintains _)
  · exact .pure _

theorem removeIfPresent_maintains (path : String) :
    Maintains Grounded (removeIfPresent path : TreeWork Unit) := by
  unfold removeIfPresent
  refine (isPresent_maintains path).bind fun present => ?_
  split
  · exact demand_maintains (removeDirectory_maintains path)
  · exact .pure _

theorem writeDirectory_maintains (path : String) (files : List OutputFile) :
    Maintains Grounded (writeDirectory path files : TreeWork Unit) := by
  have hfiles : Maintains Grounded (files.forM (writeInto path) : TreeWork Unit) := by
    induction files with
    | nil => exact .pure _
    | cons f rest ih =>
      refine Maintains.bind ?_ fun _ => ih
      exact (makeParents_maintains _).bind fun _ => demand_maintains (writeText_maintains _ _)
  unfold writeDirectory
  refine (demand_maintains (makeDirectories_maintains path)).bind fun _ => orUndo_maintains hfiles ?_
  exact (removeDirectory_maintains path).bind fun _ => .pure _

/-! ## Two stages -/

/-- Writes the new files beside the directory. -/
def stageFiles (directory name : String) (files : List OutputFile) : TreeWork Unit := do
  removeIfPresent (stagingPath directory name)
  removeIfPresent (backupPath directory name)
  writeDirectory (stagingPath directory name) files

/-- Moves the new directory to where the old one is expected not to be any more. -/
def moveInto (directory name : String) : TreeWork Unit :=
  orUndo (demand (.movingInto directory) (FileStore.rename (stagingPath directory name) directory)) do
    if ← isPresent (backupPath directory name) then
      discard (FileStore.rename (backupPath directory name) directory)

/-- Moves the old directory aside and the new one into its place. -/
def swapIn (directory name : String) : TreeWork Unit := do
  if ← isPresent directory then
    demand (.movingAside directory) (FileStore.rename directory (backupPath directory name))
  moveInto directory name
  removeIfPresent (backupPath directory name)

theorem replaceDirectory_eq (hname : Files.fileName? directory = some name) (files : List OutputFile) :
    (replaceDirectory directory files : TreeWork Unit) =
      (makeParents directory >>= fun _ => stageFiles directory name files >>= fun _ => swapIn directory name) := by
  unfold replaceDirectory hiddenSibling stageFiles swapIn moveInto stagingPath backupPath
  simp only [hname, pure_bind, bind_assoc]

theorem stageFiles_maintains (directory name : String) (files : List OutputFile) :
    Maintains Grounded (stageFiles directory name files) :=
  (removeIfPresent_maintains _).bind fun _ => (removeIfPresent_maintains _).bind fun _ =>
    writeDirectory_maintains _ files

theorem moveInto_maintains (directory name : String) : Maintains Grounded (moveInto directory name) := by
  unfold moveInto
  refine orUndo_maintains (demand_maintains (rename_maintains _ _)) ?_
  refine (isPresent_maintains _).bind fun present => ?_
  split
  · exact (rename_maintains _ _).bind fun _ => .pure _
  · exact .pure _

theorem swapIn_maintains (directory name : String) : Maintains Grounded (swapIn directory name) := by
  unfold swapIn
  refine (isPresent_maintains directory).bind fun present => ?_
  have hinto := (moveInto_maintains directory name).bind fun _ =>
    removeIfPresent_maintains (backupPath directory name)
  split
  · exact (demand_maintains (rename_maintains _ _)).bind fun _ => hinto
  · exact hinto

/-- Whatever comes of it, the tree stays grounded. -/
theorem replaceDirectory_maintains (directory : String) (files : List OutputFile) :
    Maintains Grounded (replaceDirectory directory files : TreeWork Unit) := by
  rcases hname : Files.fileName? directory with _ | name
  · unfold replaceDirectory hiddenSibling
    rw [hname]
    exact (makeParents_maintains directory).bind fun _ => .throw _
  · rw [replaceDirectory_eq hname]
    exact (makeParents_maintains directory).bind fun _ => (stageFiles_maintains _ _ files).bind fun _ =>
      swapIn_maintains _ _

/-! ## Writing beside -/

/-- The new files are written beside the directory, and what is there before stays. -/
theorem stageFiles_delivers (h : t.Ready directory place) (hname : Files.fileName? directory = some name)
    (hfiles : ∀ f ∈ files, LeadsDown f.path) :
    ∃ r t', start (stageFiles directory name files) t = (r, t') ∧ Elsewhere place t t' ∧ SameAt place t t' ∧
      (r = .ok () → t'.isDirectory (staging place) ∧ HoldsAt t' (staging place) files ∧
        FreeAt t' (backup place)) := by
  have hne : place ≠ [] := h.place_eq ▸ site_ne_root t hname
  unfold stageFiles
  -- None of the three steps touches the place, so that the tree is ready for the next one after each of them.
  rcases removeIfPresent_cases h.grounded (h.sited_staging hname) (staging_ne_root place) with
    ⟨-, hrun⟩ | ⟨t₁, hrun₁, hworking₁, hfree₁, houtside₁, -⟩
  · rw [start_bind, hrun]
    exact ⟨_, t, rfl, .refl place t, fun _ => rfl, by simp⟩
  · have hchange₁ := elsewhere_of_outside touches_staging hworking₁ houtside₁
    have hsame₁ : SameAt place t t₁ := sameAt_of_outside (separate_staging hne).symm houtside₁
    have hgrounded₁ := removeIfPresent_maintains (stagingPath directory name) t h.grounded
    rw [hrun₁] at hgrounded₁
    have h₁ := h.elsewhere hchange₁ hgrounded₁
    rw [start_bind, hrun₁]
    dsimp only
    rcases removeIfPresent_cases h₁.grounded (h₁.sited_backup hname) (backup_ne_root place) with
      ⟨-, hrun⟩ | ⟨t₂, hrun₂, hworking₂, hfree₂, houtside₂, -⟩
    · rw [start_bind, hrun]
      exact ⟨_, t₁, rfl, hchange₁, hsame₁, by simp⟩
    · have hchange₂ := elsewhere_of_outside touches_backup hworking₂ houtside₂
      have hsame₂ : SameAt place t₁ t₂ := sameAt_of_outside (separate_backup hne).symm houtside₂
      have hgrounded₂ := removeIfPresent_maintains (backupPath directory name) t₁ h₁.grounded
      rw [hrun₂] at hgrounded₂
      have h₂ := h₁.elsewhere hchange₂ hgrounded₂
      rw [start_bind, hrun₂]
      dsimp only
      have hfree : FreeAt t₂ (staging place) := fun s =>
        (houtside₂ _ ((separate_staging_backup place).symm.not_below s)).trans (hfree₁ s)
      obtain ⟨r, t₃, hrun₃, hworking₃, houtside₃, hall⟩ :=
        writeDirectory_delivers (h₂.sited_staging hname) hfree hfiles
      refine ⟨r, t₃, hrun₃, ?_, ?_, fun hok => ⟨(hall hok).1, (hall hok).2, fun s => ?_⟩⟩
      · exact (hchange₁.trans hchange₂).trans (elsewhere_of_outside touches_staging hworking₃ houtside₃)
      · exact (hsame₁.trans hsame₂).trans (sameAt_of_outside (separate_staging hne).symm houtside₃)
      · exact (houtside₃ _ ((separate_staging_backup place).not_below s)).trans (hfree₂ s)

/-! ## Moving into place -/

theorem start_moveInto_of_moved (hrename : t.rename? (stagingPath directory name) directory = some t') :
    start (moveInto directory name) t = (.ok (), t') := by
  unfold moveInto orUndo
  rw [start_tryCatch, start_demand, start_rename, hrename]

/-- If nothing has been moved aside, nothing is undone. -/
theorem start_moveInto_of_stuck (hrename : t.rename? (stagingPath directory name) directory = none)
    (hbackup : t.kind? (backupPath directory name) = none) :
    start (moveInto directory name) t = (.error (.refused (.movingInto directory)), t) := by
  unfold moveInto orUndo
  rw [start_tryCatch, start_demand, start_rename, hrename]
  dsimp only
  rw [start_bind, start_bind, start_isPresent, hbackup]
  rfl

/-- The new directory is found where it has been made. -/
theorem find?_staging (h : t.Ready directory place) (hname : Files.fileName? directory = some name)
    (hstaged : t.isDirectory (staging place)) :
    t.find? (stagingPath directory name) = some (staging place, .directory) := by
  unfold isDirectory at hstaged
  rw [decide_eq_true_iff] at hstaged
  rw [(h.sited_staging hname).find?_eq, hstaged]
  rfl

/-- The new directory can be moved to where nothing is. -/
theorem moveInto_moves (h : t.Ready directory place) (hname : Files.fileName? directory = some name)
    (hends : endsInName directory) (hfree : t.entry? place = none) (hstaged : t.isDirectory (staging place)) :
    ∃ t', start (moveInto directory name) t = (.ok (), t') ∧ Moved (staging place) place t t' := by
  have hne : place ≠ [] := h.place_eq ▸ site_ne_root t hname
  have hlocate : t.locate? directory = some place := by
    have hsite := locate?_of_way hends h.holder
    rwa [← site, ← h.place_eq] at hsite
  obtain ⟨t', hinto, hmoved⟩ := rename?_moved h.grounded (endsInName_of_split (h.sited_staging hname).name) hends
    (find?_staging h hname hstaged) hlocate hfree (separate_staging hne).symm fun _ => rfl
  exact ⟨t', start_moveInto_of_moved hinto, hmoved⟩

/-- The new directory can only be moved to where nothing is. -/
theorem moved_of_fresh (h : t.Ready directory place) (hname : Files.fileName? directory = some name)
    (hstaged : t.isDirectory (staging place)) (hkind : t.kind? directory = none)
    (hrename : t.rename? (stagingPath directory name) directory = some t') :
    Moved (staging place) place t t' ∧ t.entry? place = none := by
  have hne : place ≠ [] := h.place_eq ▸ site_ne_root t hname
  have hfind := find?_staging h hname hstaged
  obtain ⟨hends, hends', source, entry, target, hsource, htarget, hcases⟩ := rename?_eq_some hrename
  obtain ⟨rfl, rfl⟩ : staging place = source ∧ Entry.directory = entry := by simpa [hfind] using hsource
  obtain rfl : target = place := by
    rw [h.place_eq]
    exact locate?_eq_goal htarget
  have hfree : t.entry? target = none := by
    -- What is moved is already there, goes to where nothing is, or replaces what is there.
    rcases hcases with ⟨heq, -⟩ | ⟨-, ⟨-, hnone, -⟩ | ⟨⟨-, hdirectory, -⟩ | ⟨hnot, -, -⟩, -⟩⟩
    · exact absurd ⟨[], by rw [List.append_nil, heq]⟩ (separate_staging hne).2
    · exact hnone
    · -- A directory would have been seen.
      unfold kind? find? at hkind
      rw [htarget] at hkind
      simp [hdirectory] at hkind
    · exact absurd rfl hnot
  exact ⟨moved_of_rename? h.grounded hfind htarget hfree (separate_staging hne).symm hrename, hfree⟩

/-- What a failed replacement leaves of a file: it has been moved aside, and the new files are in its place. -/
structure Displaced (place : TreePlace) (t t' : FileTree) (files : List OutputFile) : Prop where
  file : ∃ content, t.entry? place = some (.file content) ∧ t'.entry? (backup place) = some (.file content)
  directory : t'.isDirectory place
  holds : HoldsAt t' place files

theorem Displaced.not_sameAt (h : Displaced place t t' files) : ¬SameAt place t t' := by
  obtain ⟨content, hfile, -⟩ := h.file
  have hdirectory := h.directory
  intro hsame
  have hplace := hsame []
  rw [List.append_nil, hfile] at hplace
  unfold isDirectory at hdirectory
  rw [hplace] at hdirectory
  cases hdirectory

/-- What is to be said of the tree after a directory has been replaced, or after that has failed. -/
def Replaced (place : TreePlace) (files : List OutputFile) (t t' : FileTree) : Except Failure Unit → Prop
  | .ok () => t'.isDirectory place ∧ HoldsAt t' place files ∧ FreeAt t' (staging place) ∧
      FreeAt t' (backup place) ∧ ∀ content, t.entry? place ≠ some (.file content)
  | .error _ => SameAt place t t' ∨ Displaced place t t' files

/-- The new directory comes to where nothing can be seen. -/
theorem swapIn_fresh (h : t.Ready directory place) (hname : Files.fileName? directory = some name)
    (hstaged : t.isDirectory (staging place)) (hholds : HoldsAt t (staging place) files)
    (hfree : FreeAt t (backup place)) (hkind : t.kind? directory = none) :
    ∃ r t', start (swapIn directory name) t = (r, t') ∧ Elsewhere place t t' ∧ Replaced place files t t' r := by
  have hne : place ≠ [] := h.place_eq ▸ site_ne_root t hname
  have hbackup : t.kind? (backupPath directory name) = none := by
    rw [(h.sited_backup hname).kind?_eq]
    simpa using hfree []
  unfold swapIn
  rw [start_bind, start_isPresent, hkind]
  simp only [Option.isSome_none, Bool.false_eq_true, if_false]
  rw [start_bind]
  rcases hrename : t.rename? (stagingPath directory name) directory with _ | t₁
  · -- There is nothing to be moved back, so that what is at the place, if only unseen, stays.
    rw [start_moveInto_of_stuck hrename hbackup]
    exact ⟨_, t, rfl, .refl place t, .inl fun _ => rfl⟩
  · obtain ⟨hmoved, hfresh⟩ := moved_of_fresh h hname hstaged hkind hrename
    have hchange := hmoved.elsewhere touches_staging touches_self
    have hgrounded := rename?_grounded h.grounded hrename
    have h₁ := h.elsewhere hchange hgrounded
    have hfree₁ : FreeAt t₁ (backup place) := fun s =>
      (hmoved.outside _ ((separate_staging_backup place).not_below s) ((separate_backup hne).not_below s)).trans
        (hfree s)
    have hremove : start (removeIfPresent (backupPath directory name) : TreeWork Unit) t₁ = (.ok (), t₁) := by
      unfold removeIfPresent
      rw [start_bind, start_isPresent, (h₁.sited_backup hname).kind?_eq]
      have hnone : t₁.entry? (backup place) = none := by simpa using hfree₁ []
      rw [hnone]
      rfl
    rw [start_moveInto_of_moved hrename]
    have hthere : t₁.entry? place = t.entry? (staging place) := by simpa using hmoved.below []
    refine ⟨.ok (), t₁, hremove, hchange, isDirectory_congr hthere hstaged,
      fun s => (hmoved.below s).trans (hholds s), hmoved.left, hfree₁, ?_⟩
    intro content hfile
    rw [hfresh] at hfile
    cases hfile

/-- The new directory comes to where something has been moved aside. -/
theorem swapIn_over (h : t.Ready directory place) (hname : Files.fileName? directory = some name)
    (hstaged : t.isDirectory (staging place)) (hholds : HoldsAt t (staging place) files)
    (hfree : FreeAt t (backup place)) {entry : Entry} (hfind : t.find? directory = some (place, entry)) :
    ∃ r t', start (swapIn directory name) t = (r, t') ∧ Elsewhere place t t' ∧ Replaced place files t t' r := by
  have hne : place ≠ [] := h.place_eq ▸ site_ne_root t hname
  obtain ⟨-, hentry⟩ := find?_eq_some hfind
  unfold swapIn
  rw [start_bind, start_isPresent, kind?_of_find? hfind]
  simp only [Option.isSome_some, if_true]
  rw [start_bind, start_demand, start_rename]
  rcases haside : t.rename? directory (backupPath directory name) with _ | t₁
  · exact ⟨_, t, rfl, .refl place t, .inl fun _ => rfl⟩
  · have hends := (rename?_eq_some haside).1
    have hmoved₁ := moved_of_rename? h.grounded hfind (h.sited_backup hname).locate?_eq (by simpa using hfree [])
      (separate_backup hne) haside
    have hchange₁ := hmoved₁.elsewhere touches_self touches_backup
    have h₁ := h.elsewhere hchange₁ (rename?_grounded h.grounded haside)
    -- What has been staged is not touched by that, so that it can be moved to the place that is free now.
    have hstaged₁ : ∀ s, t₁.entry? (staging place ++ s) = t.entry? (staging place ++ s) := fun s =>
      hmoved₁.outside _ ((separate_staging hne).not_below s) ((separate_staging_backup place).symm.not_below s)
    have hfree₁ : t₁.entry? place = none := by simpa using hmoved₁.left []
    have hstaged₁' : t₁.isDirectory (staging place) := isDirectory_congr (by simpa using hstaged₁ []) hstaged
    obtain ⟨t₂, hinto, hmoved₂⟩ := moveInto_moves h₁ hname hends hfree₁ hstaged₁'
    have hchange₂ := hmoved₂.elsewhere touches_staging touches_self
    have hgrounded₂ := moveInto_maintains directory name t₁ h₁.grounded
    rw [hinto] at hgrounded₂
    have h₂ := h₁.elsewhere hchange₂ hgrounded₂
    have hholds₂ : HoldsAt t₂ place files := fun s =>
      ((hmoved₂.below s).trans (hstaged₁ s)).trans (hholds s)
    have hdirectory₂ : t₂.isDirectory place := by
      have hthere : t₂.entry? place = t₁.entry? (staging place) := by simpa using hmoved₂.below []
      exact isDirectory_congr hthere hstaged₁'
    have hbackup₂ : t₂.entry? (backup place) = some entry := by
      have haside : t₁.entry? (backup place) = t.entry? place := by simpa using hmoved₁.below []
      rw [hmoved₂.outside _ (separate_staging_backup place).1 (separate_backup hne).1, haside, hentry]
    dsimp only
    rw [start_bind, hinto]
    dsimp only
    rcases removeIfPresent_cases h₂.grounded (h₂.sited_backup hname) (backup_ne_root place) with
      ⟨⟨content, hfile⟩, hrun⟩ | ⟨t₃, hrun, hworking₃, hfree₃, houtside₃, hdirectory⟩
    · -- Only directories can be removed. For a file, this comes too late to be undone.
      rw [hrun]
      refine ⟨_, t₂, rfl, hchange₁.trans hchange₂, .inr ⟨⟨content, ?_, hfile⟩, hdirectory₂, hholds₂⟩⟩
      rw [hentry, ← hbackup₂, hfile]
    · rw [hrun]
      have hchange₃ := elsewhere_of_outside touches_backup hworking₃ houtside₃
      refine ⟨.ok (), t₃, rfl, (hchange₁.trans hchange₂).trans hchange₃, ?_, fun s => ?_, fun s => ?_, hfree₃, ?_⟩
      · exact isDirectory_congr (houtside₃ _ (separate_backup hne).2) hdirectory₂
      · exact (houtside₃ _ ((separate_backup hne).symm.not_below s)).trans (hholds₂ s)
      · exact (houtside₃ _ ((separate_staging_backup place).symm.not_below s)).trans (hmoved₂.left s)
      · intro content hfile
        refine hdirectory content ?_
        rw [hbackup₂, ← hentry, hfile]

/-- The new directory comes to its place. -/
theorem swapIn_replaces (h : t.Ready directory place) (hname : Files.fileName? directory = some name)
    (hstaged : t.isDirectory (staging place)) (hholds : HoldsAt t (staging place) files)
    (hfree : FreeAt t (backup place)) :
    ∃ r t', start (swapIn directory name) t = (r, t') ∧ Elsewhere place t t' ∧ Replaced place files t t' r := by
  rcases hfind : t.find? directory with _ | ⟨found, entry⟩
  · refine swapIn_fresh h hname hstaged hholds hfree ?_
    unfold kind?
    rw [hfind]
    rfl
  · obtain rfl : found = place := by
      rw [h.place_eq]
      exact locate?_eq_goal (find?_eq_some hfind).1
    exact swapIn_over h hname hstaged hholds hfree hfind

/-! ## Replacing -/

/-- Nothing else has changed but that directories on the way have been made. -/
structure Spares (directory : String) (t t' : FileTree) : Prop where
  working : ¬Touches (t.site directory) t.working → t'.working = t.working
  outside : ∀ q, ¬Touches (t.site directory) q → t'.entry? q = t.entry? q ∨
    (q ∈ t.approach directory ∧ t.entry? q = none ∧ t'.entry? q = some .directory)

theorem Spares.refl (directory : String) (t : FileTree) : Spares directory t t :=
  ⟨fun _ => rfl, fun _ _ => .inl rfl⟩

theorem spares_of_adds {t₁ t₂ : FileTree} (hadds : Adds (t.approach directory) t t₁)
    (hchange : Elsewhere (t.site directory) t₁ t₂) : Spares directory t t₂ := by
  refine ⟨fun hnot => ?_, fun q hq => ?_⟩
  · exact (hchange.working (hadds.working ▸ hnot)).trans hadds.working
  · rw [hchange.outside q hq]
    exact hadds.entries q

theorem sameAt_of_adds {places : List TreePlace} {t₁ : FileTree} (hadds : Adds places t t₁)
    (h : ∀ q ∈ places, ¬place <+: q) : SameAt place t t₁ :=
  fun s => hadds.eq_of_not_mem fun hmem => h _ hmem (List.prefix_append place s)

theorem Replaced.of_sameAt {t₁ t₂ : FileTree} {r : Except Failure Unit} (hsame : SameAt place t t₁)
    (h : Replaced place files t₁ t₂ r) : Replaced place files t t₂ r := by
  have hplace : t₁.entry? place = t.entry? place := by simpa using hsame []
  cases r with
  | ok done =>
    obtain ⟨hdirectory, hholds, hstaging, hbackup, hnot⟩ := h
    exact ⟨hdirectory, hholds, hstaging, hbackup, fun content hfile => hnot content (hplace.trans hfile)⟩
  | error failure =>
    refine h.imp hsame.trans fun hdisplaced => ⟨?_, hdisplaced.directory, hdisplaced.holds⟩
    rw [← hplace]
    exact hdisplaced.file

theorem makeParents_of_lost (hlost : ¬t.isDirectory (t.origin path)) :
    ∃ r, start (makeParents path : TreeWork Unit) t = (r, t) := by
  unfold makeParents
  rcases hparent : Files.parent? path with _ | parent
  · exact ⟨_, rfl⟩
  · dsimp only
    split
    · exact ⟨_, rfl⟩
    · rename_i hne
      have horigin : t.origin parent = t.origin path := origin_congr rfl (Files.steps_parent? hparent).2
      rw [start_demand, start_makeDirectories, makeDirectories, makeDirectoriesFrom_of_lost (horigin ▸ hlost),
        decide_eq_false hne]
      exact ⟨_, rfl⟩

/-- From a place where no directory is, nothing can be replaced. -/
theorem replaceDirectory_of_lost (hname : Files.fileName? directory = some name)
    (hlost : ¬t.isDirectory (t.origin directory)) (files : List OutputFile) :
    ∃ failure, start (replaceDirectory directory files : TreeWork Unit) t = (.error failure, t) := by
  have habsent : ∀ {suffix}, Hides suffix → start (removeIfPresent
      (Files.sibling directory ("." ++ name ++ suffix)) : TreeWork Unit) t = (.ok (), t) := by
    intro suffix hhides
    unfold removeIfPresent
    rw [start_bind, start_isPresent, kind?_of_lost (origin_hidden t hname hhides ▸ hlost)]
    rfl
  -- Hidden names are looked up from the same place, so that nothing is found there and nothing can be made.
  have hwrite : start (writeDirectory (stagingPath directory name) files : TreeWork Unit) t =
      (.error (.refused (.creating (stagingPath directory name))), t) := by
    have hne : stagingPath directory name ≠ "" :=
      (Files.sibling_endsInName (hides_staging.slash_not_mem hname) (hides_staging.isName name)).path_ne
    unfold writeDirectory
    rw [start_bind, start_demand, start_makeDirectories, makeDirectories,
      makeDirectoriesFrom_of_lost (origin_hidden t hname hides_staging ▸ hlost), decide_eq_false hne]
  have hstage : start (stageFiles directory name files) t =
      (.error (.refused (.creating (stagingPath directory name))), t) := by
    unfold stageFiles
    rw [start_bind, stagingPath, habsent hides_staging]
    dsimp only
    rw [start_bind, backupPath, habsent hides_old]
    exact hwrite
  obtain ⟨r, hparents⟩ := makeParents_of_lost hlost
  rw [replaceDirectory_eq hname, start_bind, hparents]
  cases r with
  | error failure => exact ⟨failure, rfl⟩
  | ok done =>
    dsimp only
    rw [start_bind, hstage]
    exact ⟨_, rfl⟩

/-- Every outcome of replacing a directory. -/
theorem replaceDirectory_outcome (hgrounded : t.Grounded) (hname : Files.fileName? directory = some name)
    (hdirect : t.Direct directory) (hfiles : ∀ f ∈ files, LeadsDown f.path) :
    ∃ r t', start (replaceDirectory directory files : TreeWork Unit) t = (r, t') ∧ Spares directory t t' ∧
      Replaced (t.site directory) files t t' r := by
  by_cases hroot : t.isDirectory (t.origin directory)
  · obtain ⟨r, t₁, hrun, hadds, hway⟩ := makeParents_adds directory hroot
    have hsame : SameAt (t.site directory) t t₁ :=
      sameAt_of_adds hadds fun q hq hunder => hdirect q hq (touches_self q hunder)
    rw [replaceDirectory_eq hname, start_bind, hrun]
    cases r with
    | error failure => exact ⟨_, t₁, rfl, spares_of_adds hadds (.refl _ _), .inl hsame⟩
    | ok done =>
      have horigin : t₁.origin directory = t.origin directory := origin_congr hadds.working rfl
      have hgrounded₁ := makeParents_maintains directory t hgrounded
      rw [hrun] at hgrounded₁
      -- The parents do not change where the path leads, and now all of the way is there.
      have hready : t₁.Ready directory (t.site directory) := by
        refine ⟨hgrounded₁, ?_, ?_, ?_⟩
        · unfold site
          rw [horigin]
        · unfold approach
          rw [horigin]
          exact hdirect
        · unfold approach
          rw [horigin]
          exact hway rfl
      obtain ⟨r, t₂, hstage, hchange₂, hsame₂, hstaged⟩ := stageFiles_delivers hready hname hfiles
      dsimp only
      rw [start_bind, hstage]
      cases r with
      | error failure => exact ⟨_, t₂, rfl, spares_of_adds hadds hchange₂, .inl (hsame.trans hsame₂)⟩
      | ok done =>
        obtain ⟨hdirectory, hholds, hfree⟩ := hstaged rfl
        have hgrounded₂ := stageFiles_maintains directory name files t₁ hgrounded₁
        rw [hstage] at hgrounded₂
        obtain ⟨r, t₃, hswap, hchange₃, hreplaced⟩ :=
          swapIn_replaces (hready.elsewhere hchange₂ hgrounded₂) hname hdirectory hholds hfree
        exact ⟨r, t₃, hswap, spares_of_adds hadds (hchange₂.trans hchange₃),
          hreplaced.of_sameAt (hsame.trans hsame₂)⟩
  · obtain ⟨failure, hrun⟩ := replaceDirectory_of_lost hname hroot files
    exact ⟨_, t, hrun, .refl directory t, .inl fun _ => rfl⟩

/-- If a directory is replaced, there are exactly the new files, and nothing is left beside it. If that fails,
what was there before is still there, unless it was a file that all files could be written in place of. Nothing
else changes but that the directory gets its parents. -/
theorem replaceDirectory_replaces (hgrounded : t.Grounded) (hname : Files.fileName? directory ≠ none)
    (hdirect : t.Direct directory) (hfiles : ∀ f ∈ files, LeadsDown f.path) :
    (∀ t', start (replaceDirectory directory files : TreeWork Unit) t = (.ok (), t') →
        HoldsAt t' (t.site directory) files ∧ FreeAt t' (staging (t.site directory)) ∧
          FreeAt t' (backup (t.site directory)) ∧ Spares directory t t' ∧
          ∀ content, t.entry? (t.site directory) ≠ some (.file content)) ∧
      ∀ failure t', start (replaceDirectory directory files : TreeWork Unit) t = (.error failure, t') →
        (SameAt (t.site directory) t t' ↔ ¬Displaced (t.site directory) t t' files) ∧ Spares directory t t' := by
  obtain ⟨name, hname⟩ := Option.ne_none_iff_exists'.mp hname
  obtain ⟨r, t₁, hrun, hspares, hreplaced⟩ := replaceDirectory_outcome hgrounded hname hdirect hfiles
  rw [hrun]
  constructor
  · intro t' heq
    cases heq
    obtain ⟨-, hholds, hstaging, hbackup, hnot⟩ := hreplaced
    exact ⟨hholds, hstaging, hbackup, hspares, hnot⟩
  · intro failure t' heq
    cases heq
    exact ⟨⟨fun hsame hdisplaced => hdisplaced.not_sameAt hsame, hreplaced.resolve_right⟩, hspares⟩

/-- A tree with a file in a directory. -/
def oldDirectory : FileTree :=
  ⟨[(["out"], .directory), (["out", "old.ts"], .file (.text "old"))], []⟩

/-- A tree with a file where a directory is expected. -/
def oldFile : FileTree :=
  ⟨[(["out"], .file (.text "old"))], []⟩

/-- One new file. -/
def newFiles : List OutputFile :=
  [⟨"src/new.ts", "new", none⟩]

theorem newFiles_leadDown : ∀ f ∈ newFiles, LeadsDown f.path := by
  intro f hf
  rw [List.mem_singleton.mp hf]
  exact ⟨by decide, by decide⟩

theorem replaceDirectory_replaces_out :
    ∃ t', start (replaceDirectory "out" newFiles : TreeWork Unit) oldDirectory = (.ok (), t') ∧
      HoldsAt t' ["out"] newFiles ∧ FreeAt t' (staging ["out"]) ∧ FreeAt t' (backup ["out"]) := by
  have hgrounded : oldDirectory.Grounded := grounded_of_entries (by decide)
  have hname : Files.fileName? "out" = some "out" := by decide
  have hdirect : oldDirectory.Direct "out" := by
    have hsteps : Files.steps "out" = ["out"] := by decide +kernel
    refine direct_of_names hname ?_
    rw [hsteps]
    intro s hs
    rw [List.mem_singleton.mp hs]
    exact ⟨by decide, by decide, by decide⟩
  have hreplaced := (replaceDirectory_replaces hgrounded (by simp [hname]) hdirect newFiles_leadDown).1
  have hok : (start (replaceDirectory "out" newFiles : TreeWork Unit) oldDirectory).1 = .ok () := by decide +kernel
  have hsite : oldDirectory.site "out" = ["out"] := by decide +kernel
  rcases hrun : start (replaceDirectory "out" newFiles : TreeWork Unit) oldDirectory with ⟨r, t'⟩
  rw [hrun] at hok
  subst hok
  obtain ⟨hholds, hstaging, hbackup, -, -⟩ := hreplaced t' hrun
  rw [hsite] at hholds hstaging hbackup
  exact ⟨t', rfl, hholds, hstaging, hbackup⟩

/-- A failed replacement does not leave a file where it was. -/
theorem replaceDirectory_not_sameAt :
    ¬∀ (t : FileTree) (directory : String) (files : List OutputFile), t.Grounded →
      Files.fileName? directory ≠ none → (∀ f ∈ files, LeadsDown f.path) → ∀ failure t',
        start (replaceDirectory directory files : TreeWork Unit) t = (.error failure, t') →
          SameAt (t.site directory) t t' := by
  intro h
  have hfailed : (start (replaceDirectory "out" newFiles : TreeWork Unit) oldFile).1 =
      .error (.refused (.removing ".out.rpcgen-old")) := by decide +kernel
  have hnew : entry? (start (replaceDirectory "out" newFiles : TreeWork Unit) oldFile).2 ["out"] =
      some .directory := by decide +kernel
  have hold : oldFile.entry? ["out"] = some (.file (.text "old")) := by decide +kernel
  have hsite : oldFile.site "out" = ["out"] := by decide +kernel
  have hname : Files.fileName? "out" ≠ none := by decide +kernel
  rcases hrun : start (replaceDirectory "out" newFiles : TreeWork Unit) oldFile with ⟨r, t'⟩
  rw [hrun] at hfailed hnew
  subst hfailed
  have hsame := h oldFile "out" newFiles (grounded_of_entries (by decide)) hname newFiles_leadDown _ t' hrun []
  rw [hsite, List.append_nil, hold, hnew] at hsame
  cases hsame

end ServiceStubs
