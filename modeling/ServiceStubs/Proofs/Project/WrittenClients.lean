import ServiceStubs.Project
import ServiceStubs.Proofs.Project.Replacement
import ServiceStubs.Proofs.Target.Outcome

/-!
# What is written for a project

Clients are written to one directory after the other. What has been written for one target is still there at
the end, if the directories do not get into each other's way.

* `services_run` says that building services only reads;
* `Leaves` is what keeps a later output from changing an earlier one, and `Orderly` says it of all;
  `orderly_of_names` is the case of paths that only lead down;
* `write_step` is what one output does, and `writeAll_keeps` what all of them do together;
* `writeClients_keepsWritten` concludes for the report of a run.
-/

namespace ServiceStubs

open FileTree

/-! ## Reading -/

section Reading

variable {P : FileTree → Prop}

theorem readText_maintains (path : String) :
    Maintains P (FileStore.readText? path : TreeWork (Option String)) :=
  fun _ h => h

theorem firstReadable_maintains (root : String) (paths : List String) :
    Maintains P (firstReadable root paths : TreeWork (Option (String × String))) := by
  induction paths with
  | nil => exact .pure _
  | cons path rest ih =>
    refine (readText_maintains _).bind fun text => ?_
    cases text with
    | some text => exact .pure _
    | none => exact ih

theorem gatherModules_maintains (root : String) (bound : Nat)
    (gathered : List (String × Except Error Source.Module)) (pending : List (List String)) :
    Maintains P (gatherModules root bound gathered pending : TreeWork _) := by
  induction bound generalizing gathered pending with
  | zero =>
    unfold gatherModules
    exact .pure _
  | succ bound ih =>
    rcases pending with _ | ⟨files, pending⟩
    · unfold gatherModules
      exact .pure _
    · unfold gatherModules
      refine (firstReadable_maintains root files).bind fun found => ?_
      rcases found with _ | ⟨path, text⟩
      · exact ih gathered pending
      · dsimp only
        split
        · exact ih gathered pending
        · exact ih _ _

theorem gatherLibrary_maintains (root path text : String) :
    Maintains P (gatherLibrary root path text : TreeWork Source.Library) := by
  unfold gatherLibrary
  split
  · exact (gatherModules_maintains root _ _ _).bind fun _ => .pure _
  · exact .pure _

theorem service_maintains (p : Project) (c : ClassEntry) : Maintains P (p.service c : TreeWork Service) := by
  unfold Project.service
  refine Maintains.bind ?_ fun exposure => ?_
  · rcases c.exposure with failure | exposure
    · exact .throw _
    · exact .pure _
  · refine (readText_maintains _).bind fun text => ?_
    cases text with
    | none => exact .throw _
    | some text =>
      refine (gatherLibrary_maintains _ _ _).bind fun library => ?_
      split
      · exact .pure _
      · exact .throw _

end Reading

section Runs

variable {α β σ : Type}

theorem mapM_cons_run (f : α → StateM σ β) (x : α) (rest : List α) (s : σ) :
    ((x :: rest).mapM f).run s =
      (((f x).run s).1 :: ((rest.mapM f).run ((f x).run s).2).1, ((rest.mapM f).run ((f x).run s).2).2) := by
  rw [List.mapM_cons]
  rfl

theorem mapM_run_eq {f : α → StateM σ β} (h : ∀ a s, ((f a).run s).2 = s) (xs : List α) (s : σ) :
    ((xs.mapM f).run s).2 = s := by
  induction xs with
  | nil => rfl
  | cons x rest ih => rw [mapM_cons_run, h, ih]

end Runs

/-- Building services changes nothing. -/
theorem services_run (p : Project) (t : FileTree) : ((p.services : StateM FileTree _).run t).2 = t :=
  mapM_run_eq (fun c s => service_maintains (P := (· = s)) p c s rfl) p.config.classes t

/-! ## Writing one output -/

theorem start_write_error {r : TargetResult} {e : Error} (h : r.result = .error e) (t : FileTree) :
    ∃ failure, start (r.write : TreeWork (String × Nat)) t = (.error failure, t) := by
  unfold TargetResult.write
  rw [h]
  exact ⟨_, rfl⟩

theorem start_write_ok {r : TargetResult} {files : List OutputFile} (h : r.result = .ok files) (t : FileTree) :
    start (r.write : TreeWork (String × Nat)) t =
      match start (replaceDirectory r.output.dir files : TreeWork Unit) t with
      | (.ok (), t') => (.ok (r.output.dir, files.length), t')
      | (.error failure, t') =>
        (.error (.during (.writingClients r.output.target.label r.output.dir) failure), t') := by
  have hlift : start (ExceptT.lift (replaceDirectory r.output.dir files : TreeWork Unit).run : TreeWork _) t =
      (.ok (start (replaceDirectory r.output.dir files : TreeWork Unit) t).1,
        (start (replaceDirectory r.output.dir files : TreeWork Unit) t).2) := rfl
  unfold TargetResult.write
  rw [h]
  dsimp only
  rw [start_bind, hlift]
  rcases start (replaceDirectory r.output.dir files : TreeWork Unit) t with ⟨done, t'⟩
  cases done with
  | ok done => rfl
  | error failure => rfl

/-! ## Outputs side by side -/

/-- Both outputs are the same, or what is replaced for the later one is separate from the directory of the earlier
one. -/
def SideBySide (t : FileTree) (later earlier : OutputTarget) : Prop :=
  (t.site later.dir = t.site earlier.dir ∧ later.target = earlier.target) ∨
    (Separate (t.site later.dir) (t.site earlier.dir) ∧ Separate (staging (t.site later.dir)) (t.site earlier.dir) ∧
      Separate (backup (t.site later.dir)) (t.site earlier.dir))

/-- Writing a later output does not change what has been written for an earlier one: they are side by side, and
nothing is made below the earlier one on the way to the later one. -/
structure Leaves (t : FileTree) (later earlier : OutputTarget) : Prop where
  sideBySide : Files.fileName? later.dir ≠ none → SideBySide t later earlier
  way : ∀ s, s ≠ [] → t.site earlier.dir ++ s ∉ t.approach later.dir

/-- The outputs do not get into each other's way, and all files of an output are below its directory. -/
structure Orderly (t : FileTree) (results : List TargetResult) : Prop where
  safe : ∀ r ∈ results, ∀ files, r.result = .ok files → ∀ f ∈ files, SafePath f.path
  direct : ∀ r ∈ results, Files.fileName? r.output.dir ≠ none → t.Direct r.output.dir
  origin : ∀ r ∈ results, Files.fileName? r.output.dir ≠ none → ∀ r' ∈ results,
    ¬Touches (t.site r.output.dir) (t.origin r'.output.dir)
  later : results.Pairwise fun earlier later => Leaves t later.output earlier.output

/-- On the way to a place, nothing is made below another one that is separate from it or the same. -/
theorem way_of_names {t : FileTree} {earlier later : String} (hnames : ∀ s ∈ Files.steps later, IsName s)
    (hnamed : Files.fileName? later ≠ none)
    (h : t.site later = t.site earlier ∨ Separate (t.site later) (t.site earlier)) :
    ∀ s, s ≠ [] → t.site earlier ++ s ∉ t.approach later := by
  obtain ⟨name, hname⟩ := Option.ne_none_iff_exists'.mp hnamed
  obtain ⟨parent, -, hsteps, -⟩ := Files.steps_of_fileName? hname
  have hplace : t.site later = t.origin later ++ Files.steps later := goal_names _ hnames
  intro s hs hmem
  obtain ⟨front, hfront, heq⟩ := (mem_way_names fun s hs => hnames s (List.dropLast_subset _ hs)).mp hmem
  have hunder : t.site earlier ++ s <+: t.site later := by
    rw [heq, hplace, List.prefix_append_right_inj]
    exact hfront.trans (List.dropLast_prefix _)
  rcases h with hsame | hseparate
  · have hlength := hunder.length_le
    have hpositive := List.length_pos_iff.mpr hs
    rw [hsame, List.length_append] at hlength
    omega
  · exact hseparate.2 ((List.prefix_append _ s).trans hunder)

/-- Paths that only lead down from one place do not get into each other's way if the places that they lead to are
separate, or the same for the same target. -/
theorem orderly_of_names {t : FileTree} {results : List TargetResult}
    (hsafe : ∀ r ∈ results, ∀ files, r.result = .ok files → ∀ f ∈ files, SafePath f.path)
    (hnames : ∀ r ∈ results, ∀ s ∈ Files.steps r.output.dir, IsName s)
    (hnamed : ∀ r ∈ results, Files.fileName? r.output.dir ≠ none)
    (horigin : ∀ r ∈ results, ∀ r' ∈ results, t.origin r.output.dir = t.origin r'.output.dir)
    (hplaces : results.Pairwise fun earlier later => SideBySide t later.output earlier.output) :
    Orderly t results := by
  have hdirect : ∀ r ∈ results, t.Direct r.output.dir := by
    intro r hr
    obtain ⟨name, hname⟩ := Option.ne_none_iff_exists'.mp (hnamed r hr)
    exact direct_of_names hname (hnames r hr)
  refine ⟨hsafe, fun r hr _ => hdirect r hr, fun r hr _ r' hr' => ?_, ?_⟩
  · rw [← horigin r hr r' hr']
    exact hdirect r hr _ (origin_mem_approach t r.output.dir)
  · refine hplaces.imp_of_mem fun {earlier later} _ hlater hplace => ⟨fun _ => hplace, ?_⟩
    exact way_of_names (hnames later hlater) (hnamed later hlater) (hplace.imp And.left And.left)

/-- What has been written is there: a directory with exactly the given files. -/
structure Intact (t : FileTree) (place : TreePlace) (files : List OutputFile) : Prop where
  directory : t.isDirectory place
  holds : HoldsAt t place files

variable {t t' : FileTree} {place : TreePlace} {files : List OutputFile} {name : String}

theorem Intact.of_sameAt (h : Intact t place files) (hsame : SameAt place t t') : Intact t' place files := by
  refine ⟨isDirectory_congr ?_ h.directory, fun s => (hsame s).trans (h.holds s)⟩
  simpa using hsame []

/-- Directories that are made on the way to something else change nothing below what is there. -/
theorem Intact.of_adds {places : List TreePlace} (h : Intact t place files)
    (hsame : ∀ s, t'.entry? (place ++ s) = t.entry? (place ++ s) ∨
      place ++ s ∈ places ∧ t.entry? (place ++ s) = none ∧ t'.entry? (place ++ s) = some .directory)
    (hway : ∀ s, s ≠ [] → place ++ s ∉ places) : Intact t' place files := by
  refine h.of_sameAt fun s => (hsame s).resolve_right ?_
  rintro ⟨hmem, hnone, -⟩
  by_cases hs : s = []
  · have hdirectory := h.directory
    unfold isDirectory at hdirectory
    rw [hs, List.append_nil] at hnone
    rw [hnone] at hdirectory
    cases hdirectory
  · exact hway s hs hmem

/-- Replacing a directory leaves what is apart from it. -/
theorem Intact.of_spares {directory : String} (h : Intact t place files) (hspares : Spares directory t t')
    (hself : Separate (t.site directory) place) (hstaging : Separate (staging (t.site directory)) place)
    (hbackup : Separate (backup (t.site directory)) place)
    (hway : ∀ s, s ≠ [] → place ++ s ∉ t.approach directory) : Intact t' place files := by
  refine h.of_adds (fun s => hspares.outside _ ?_) hway
  rintro (hunder | hunder | hunder)
  · exact hself.not_below s hunder
  · exact hstaging.not_below s hunder
  · exact hbackup.not_below s hunder

/-- Replacing a directory by the same files leaves them there, whether it succeeds or not. -/
theorem Intact.of_replaced {r : Except Failure Unit} (h : Intact t place files)
    (hreplaced : Replaced place files t t' r) : Intact t' place files := by
  cases r with
  | ok done => exact ⟨hreplaced.1, hreplaced.2.1⟩
  | error failure =>
    rcases hreplaced with hsame | hdisplaced
    · exact h.of_sameAt hsame
    · obtain ⟨content, hfile, -⟩ := hdisplaced.file
      have hdirectory := h.directory
      unfold isDirectory at hdirectory
      rw [hfile] at hdirectory
      cases hdirectory

/-- Without a name, a directory is not replaced; only those that it is in are made. -/
theorem replaceDirectory_of_nameless {directory : String} (hname : Files.fileName? directory = none)
    (files : List OutputFile) :
    ∃ failure t', start (replaceDirectory directory files : TreeWork Unit) t = (.error failure, t') ∧
      Adds (t.approach directory) t t' := by
  obtain ⟨r, t', hrun, hadds⟩ : ∃ r t', start (makeParents directory : TreeWork Unit) t = (r, t') ∧
      Adds (t.approach directory) t t' := by
    by_cases hroot : t.isDirectory (t.origin directory)
    · obtain ⟨r, t', hrun, hadds, -⟩ := makeParents_adds directory hroot
      exact ⟨r, t', hrun, hadds⟩
    · obtain ⟨r, hrun⟩ := makeParents_of_lost hroot
      exact ⟨r, t, hrun, .refl _ t⟩
  unfold replaceDirectory hiddenSibling
  rw [hname, start_bind, hrun]
  cases r with
  | error failure => exact ⟨failure, t', rfl, hadds⟩
  | ok done => exact ⟨_, t', rfl, hadds⟩

theorem SafePath.leadsDown {path : String} (h : SafePath path) : LeadsDown path :=
  ⟨h.relative, fun hup => (h.names _ hup).not_up rfl⟩

theorem origin_of_spares {directory path : String} (hspares : Spares directory t t')
    (h : ¬Touches (t.site directory) (t.origin path)) : t'.origin path = t.origin path := by
  unfold origin at h ⊢
  split
  · rfl
  · rename_i hrelative
    rw [if_neg hrelative] at h
    exact hspares.working h

/-! ## Writing one output after the other -/

/-- After some outputs have been written, those of them that have succeeded are there. Paths still start from
where they started at first. -/
structure Progress (t₀ : FileTree) (results : List TargetResult) (written : List (TargetResult × List OutputFile))
    (t : FileTree) : Prop where
  grounded : t.Grounded
  origin : ∀ r ∈ results, t.origin r.output.dir = t₀.origin r.output.dir
  succeeded : ∀ w ∈ written, w.1 ∈ results ∧ w.1.result = .ok w.2
  intact : ∀ w ∈ written, Intact t (t₀.site w.1.output.dir) w.2

variable {services : List Service} {m : Metadata} {t₀ : FileTree} {results rest : List TargetResult}
  {written : List (TargetResult × List OutputFile)} {r : TargetResult}

theorem Progress.concat (h : Progress t₀ results written t) (hr : r ∈ results) (hresult : r.result = .ok files)
    (hintact : Intact t (t₀.site r.output.dir) files) : Progress t₀ results (written ++ [(r, files)]) t := by
  refine ⟨h.grounded, h.origin, ?_, ?_⟩
  · intro w hw
    rcases List.mem_append.mp hw with hw | hw
    · exact h.succeeded w hw
    · rw [List.mem_singleton.mp hw]
      exact ⟨hr, hresult⟩
  · intro w hw
    rcases List.mem_append.mp hw with hw | hw
    · exact h.intact w hw
    · rw [List.mem_singleton.mp hw]
      exact hintact

theorem Progress.site (h : Progress t₀ results written t) (hr : r ∈ results) :
    t.site r.output.dir = t₀.site r.output.dir := by
  unfold FileTree.site
  rw [h.origin r hr]

theorem Progress.approach (h : Progress t₀ results written t) (hr : r ∈ results) :
    t.approach r.output.dir = t₀.approach r.output.dir := by
  unfold FileTree.approach
  rw [h.origin r hr]

/-- Making the directories on the way to an output changes nothing that has been written before. -/
theorem Progress.of_adds (h : Progress t₀ results written t) (hr : r ∈ results)
    (hlater : ∀ w ∈ written, Leaves t₀ r.output w.1.output) (hgrounded : t'.Grounded)
    (hadds : Adds (t.approach r.output.dir) t t') : Progress t₀ results written t' := by
  refine ⟨hgrounded, fun r' hr' => ?_, h.succeeded, fun w hw => ?_⟩
  · rw [← h.origin r' hr']
    exact origin_congr hadds.working rfl
  · refine (h.intact w hw).of_adds (fun s => hadds.entries _) ?_
    rw [h.approach hr]
    exact (hlater w hw).way

/-- Replacing an output changes nothing that has been written before, whether it succeeds or not. -/
theorem Progress.of_replaced {done : Except Failure Unit}
    (hgenerated : ∀ r ∈ results, r.result = generateTarget services r.output.target m)
    (horderly : Orderly t₀ results) (h : Progress t₀ results written t) (hr : r ∈ results)
    (hlater : ∀ w ∈ written, Leaves t₀ r.output w.1.output) (hresult : r.result = .ok files)
    (hnamed : Files.fileName? r.output.dir ≠ none) (hgrounded : t'.Grounded) (hspares : Spares r.output.dir t t')
    (hreplaced : Replaced (t.site r.output.dir) files t t' done) : Progress t₀ results written t' := by
  have hsite := h.site hr
  refine ⟨hgrounded, fun r' hr' => ?_, h.succeeded, fun w hw => ?_⟩
  · have hnot := horderly.origin r hr hnamed r' hr'
    rw [← hsite, ← h.origin r' hr'] at hnot
    rw [← h.origin r' hr']
    exact origin_of_spares hspares hnot
  · have hway := (hlater w hw).way
    rcases (hlater w hw).sideBySide hnamed with ⟨hplace, htarget⟩ | ⟨hself, hstaging, hbackup⟩
    · -- The same files are written once more.
      obtain ⟨hmem, hw'⟩ := h.succeeded w hw
      have hfiles : w.2 = files := by
        rw [hgenerated _ hmem, ← htarget, ← hgenerated r hr, hresult] at hw'
        exact (Except.ok.inj hw').symm
      have hintact := h.intact w hw
      rw [← hplace, hfiles, ← hsite] at hintact ⊢
      exact hintact.of_replaced hreplaced
    · rw [← hsite] at hself hstaging hbackup
      rw [← h.approach hr] at hway
      exact (h.intact w hw).of_spares hspares hself hstaging hbackup hway

/-- What one output does: it fails, or it is there afterwards. In both cases, what has been written before stays
as it is. -/
theorem write_step (hgenerated : ∀ r ∈ results, r.result = generateTarget services r.output.target m)
    (horderly : Orderly t₀ results) (h : Progress t₀ results written t) (hr : r ∈ results)
    (hlater : ∀ w ∈ written, Leaves t₀ r.output w.1.output) :
    (∃ failure t', start (r.write : TreeWork (String × Nat)) t = (.error failure, t') ∧
        Progress t₀ results written t') ∨
      ∃ files t', r.result = .ok files ∧
        start (r.write : TreeWork (String × Nat)) t = (.ok (r.output.dir, files.length), t') ∧
        Progress t₀ results (written ++ [(r, files)]) t' := by
  rcases hresult : r.result with e | files
  · obtain ⟨failure, hrun⟩ := start_write_error hresult t
    exact .inl ⟨failure, t, hrun, h⟩
  · have hgrounded := replaceDirectory_maintains r.output.dir files t h.grounded
    rw [start_write_ok hresult]
    rcases hname : Files.fileName? r.output.dir with _ | name
    · obtain ⟨failure, t', hrun, hadds⟩ := replaceDirectory_of_nameless hname files (t := t)
      rw [hrun] at hgrounded ⊢
      exact .inl ⟨_, t', rfl, h.of_adds hr hlater hgrounded hadds⟩
    · have hnamed : Files.fileName? r.output.dir ≠ none := by simp [hname]
      -- Paths lead to where they led at first, so that what is known of the first tree holds of this one.
      have hdirect : t.Direct r.output.dir := by
        unfold Direct
        rw [h.site hr, h.approach hr]
        exact horderly.direct r hr hnamed
      obtain ⟨done, t', hrun, hspares, hreplaced⟩ := replaceDirectory_outcome h.grounded hname hdirect
        fun f hf => (horderly.safe r hr files hresult f hf).leadsDown
      rw [hrun] at hgrounded ⊢
      have hprogress := h.of_replaced hgenerated horderly hr hlater hresult hnamed hgrounded hspares hreplaced
      cases done with
      | error failure => exact .inl ⟨_, t', rfl, hprogress⟩
      | ok done =>
        refine .inr ⟨files, t', rfl, rfl, hprogress.concat hr hresult ?_⟩
        rw [← h.site hr]
        exact ⟨hreplaced.1, hreplaced.2.1⟩

/-- Writes the outputs, one after the other. -/
def writeAll (results : List TargetResult) : StateM FileTree (List (Except Failure (String × Nat))) :=
  results.mapM fun r => (r.write : TreeWork (String × Nat)).run

theorem writeAll_cons (r : TargetResult) (rest : List TargetResult) (t : FileTree) :
    (writeAll (r :: rest)).run t =
      ((start (r.write : TreeWork (String × Nat)) t).1 ::
          ((writeAll rest).run (start (r.write : TreeWork (String × Nat)) t).2).1,
        ((writeAll rest).run (start (r.write : TreeWork (String × Nat)) t).2).2) :=
  mapM_cons_run _ r rest t

/-- All that has been written with success is there at the end, in the order of the outputs. -/
theorem writeAll_keeps (hgenerated : ∀ r ∈ results, r.result = generateTarget services r.output.target m)
    (horderly : Orderly t₀ results) (h : Progress t₀ results written t) (hrest : ∀ r ∈ rest, r ∈ results)
    (hpending : rest.Pairwise fun earlier later => Leaves t₀ later.output earlier.output)
    (hlater : ∀ w ∈ written, ∀ r ∈ rest, Leaves t₀ r.output w.1.output) :
    ∃ more, List.Sublist (more.map Prod.fst) rest ∧
      successes ((writeAll rest).run t).1 = more.map (fun w => (w.1.output.dir, w.2.length)) ∧
      Progress t₀ results (written ++ more) ((writeAll rest).run t).2 := by
  -- Each output changes the tree and may add to what has been written, hence both are generalized.
  induction rest generalizing t written with
  | nil => exact ⟨[], .slnil, rfl, by rw [List.append_nil]; exact h⟩
  | cons r rest ih =>
    obtain ⟨hfirst, hpending⟩ := List.pairwise_cons.mp hpending
    have hr := hrest r List.mem_cons_self
    have hrest' : ∀ r' ∈ rest, r' ∈ results := fun r' hr' => hrest r' (List.mem_cons_of_mem r hr')
    rw [writeAll_cons]
    rcases write_step hgenerated horderly h hr fun w hw => hlater w hw r List.mem_cons_self with
      ⟨failure, t', hrun, hprogress⟩ | ⟨files, t', hresult, hrun, hprogress⟩
    · rw [hrun]
      obtain ⟨more, hsublist, hmore, hend⟩ := ih hprogress hrest' hpending
        fun w hw r' hr' => hlater w hw r' (List.mem_cons_of_mem r hr')
      exact ⟨more, hsublist.cons r, hmore, hend⟩
    · rw [hrun]
      obtain ⟨more, hsublist, hmore, hend⟩ := ih hprogress hrest' hpending (by
        intro w hw r' hr'
        rcases List.mem_append.mp hw with hw | hw
        · exact hlater w hw r' (List.mem_cons_of_mem r hr')
        · rw [List.mem_singleton.mp hw]
          exact hfirst r' hr')
      refine ⟨(r, files) :: more, hsublist.cons_cons r, ?_, ?_⟩
      · rw [List.map_cons, ← hmore]
        rfl
      · rwa [List.append_assoc, List.singleton_append] at hend

/-! ## Whole runs -/

/-- A directory is there that holds exactly the given files, each in a place of its own. -/
structure HoldsExactly (t : FileTree) (place : TreePlace) (files : List OutputFile) : Prop where
  holds : HoldsAt t place files
  distinct : (files.map fun f => Files.steps f.path).Nodup
  each : ∀ f ∈ files, t.entry? (place ++ Files.steps f.path) = some (.file (.text f.content))
  only : ∀ s content, t.entry? (place ++ s) = some (.file content) →
    ∃ f ∈ files, Files.steps f.path = s ∧ content = .text f.content

/-- A file that shares its place with no other one is delivered. -/
theorem delivered_of_mem (hnodup : (files.map fun f => Files.steps f.path).Nodup) {f : OutputFile}
    (hf : f ∈ files) :
    delivered files (Files.steps f.path) = some (.file (.text f.content)) := by
  unfold delivered
  rcases hfind : files.reverse.find? (fun g => Files.steps g.path = Files.steps f.path) with _ | g
  · rw [List.find?_eq_none] at hfind
    exact absurd (by simp) (hfind f (List.mem_reverse.mpr hf))
  · have hg : g ∈ files := List.mem_reverse.mp (List.mem_of_find?_eq_some hfind)
    have hsteps : Files.steps g.path = Files.steps f.path := by simpa using List.find?_some hfind
    rw [hfind, List.inj_on_of_nodup_map hnodup hg hf hsteps]

/-- Whatever file is delivered is one of those given. -/
theorem mem_of_delivered {s : TreePlace} {content : Content} (h : delivered files s = some (.file content)) :
    ∃ f ∈ files, Files.steps f.path = s ∧ content = .text f.content := by
  unfold delivered at h
  rcases hfind : files.reverse.find? (fun g => Files.steps g.path = s) with _ | g
  · rw [hfind] at h
    dsimp only at h
    split at h
    · cases h
    · cases h
  · rw [hfind] at h
    cases h
    exact ⟨g, List.mem_reverse.mp (List.mem_of_find?_eq_some hfind), by simpa using List.find?_some hfind, rfl⟩

theorem SafePath.steps_eq {path : String} (h : SafePath path) : Files.steps path = Text.splitOn '/' path :=
  List.filter_eq_self.mpr fun s hs => Files.isStep_of_isName (h.names s hs)

/-- No two files of a target have the same place, if all of them are below its directory. -/
theorem nodup_steps {target : Target} (h : generateTarget services target m = .ok files)
    (hsafe : ∀ f ∈ files, SafePath f.path) : (files.map fun f => Files.steps f.path).Nodup := by
  obtain ⟨planned, rendered, -, -, hrepeated, rfl⟩ := generateTarget_eq_ok_iff.mp h
  have hpaths := (firstRepeated?_eq_none_iff.mp hrepeated).1
  have hperm := List.mergeSort_perm (allFiles target.emitter m rendered) fun a b => decide (a.path ≤ b.path)
  rw [← (hperm.map _).nodup_iff] at hpaths
  refine List.Nodup.map_on ?_ hpaths.of_map
  intro f hf g hg hsteps
  -- The paths are compared as texts, but all segments of a safe one are steps.
  have hsplit : Text.splitOn '/' f.path = Text.splitOn '/' g.path := by
    rw [← (hsafe f hf).steps_eq, ← (hsafe g hg).steps_eq]
    exact hsteps
  have hpath : f.path = g.path := by
    rw [← Text.intercalate_splitOn f.path, hsplit, Text.intercalate_splitOn]
  exact List.inj_on_of_nodup_map hpaths hf hg hpath

/-- The outputs that a run is to write. -/
def Project.targets (p : Project) (overrides : List OutputTarget) : List (Except Failure OutputTarget) :=
  if overrides.isEmpty then p.config.outputs p.root else overrides.map .ok

/-- What a run generates from the sources in a tree. -/
def Project.generated (p : Project) (overrides : List OutputTarget) (t : FileTree) : List TargetResult :=
  generate (successes ((p.services : StateM FileTree _).run t).1) (successes (p.targets overrides))
    p.config.metadata

/-- A run without a summary always gives a report. -/
theorem start_writeClients (p : Project) (overrides : List OutputTarget) (t : FileTree) :
    ∃ report, start (p.writeClients overrides none : TreeWork Report) t =
        (.ok report, ((writeAll (p.generated overrides t)).run t).2) ∧
      report.written = successes ((writeAll (p.generated overrides t)).run t).1 := by
  have hservices : start (ExceptT.lift p.services : TreeWork _) t =
      (.ok ((p.services : StateM FileTree _).run t).1, t) :=
    Prod.ext rfl (services_run p t)
  unfold Project.writeClients
  dsimp only
  rw [start_bind, hservices]
  exact ⟨_, rfl, rfl⟩

/-- The run gives a report, and each directory that it lists as written holds at the end exactly the files that
have been generated for its target. -/
def Project.KeepsWritten (p : Project) (overrides : List OutputTarget) (t : FileTree) : Prop :=
  ∃ report t', start (p.writeClients overrides none : TreeWork Report) t = (.ok report, t') ∧
    ∃ written : List (TargetResult × List OutputFile),
      List.Sublist (written.map Prod.fst) (p.generated overrides t) ∧
        report.written = written.map (fun w => (w.1.output.dir, w.2.length)) ∧
        ∀ w ∈ written, w.1.result = .ok w.2 ∧ HoldsExactly t' (t'.site w.1.output.dir) w.2

/-- If the outputs do not get into each other's way, nothing that has been written is lost or changed. -/
theorem writeClients_keepsWritten {p : Project} {overrides : List OutputTarget} (hgrounded : t.Grounded)
    (horderly : Orderly t (p.generated overrides t)) : p.KeepsWritten overrides t := by
  have hgenerated : ∀ r ∈ p.generated overrides t, r.result =
      generateTarget (successes ((p.services : StateM FileTree _).run t).1) r.output.target p.config.metadata := by
    intro r hr
    obtain ⟨output, -, rfl⟩ := List.mem_map.mp hr
    rfl
  have hstart : Progress t (p.generated overrides t) [] t := ⟨hgrounded, fun _ _ => rfl, by simp, by simp⟩
  obtain ⟨report, hrun, hwritten⟩ := start_writeClients p overrides t
  -- The invariant holds before the first output is written, and each write preserves it.
  obtain ⟨written, hsublist, hsuccesses, hprogress⟩ :=
    writeAll_keeps hgenerated horderly hstart (fun _ hr => hr) horderly.later (by simp)
  refine ⟨report, _, hrun, written, hsublist, hwritten.trans hsuccesses, fun w hw => ?_⟩
  obtain ⟨hmem, hresult⟩ := hprogress.succeeded w hw
  have hintact := hprogress.intact w hw
  have hdistinct := nodup_steps ((hgenerated _ hmem).symm.trans hresult) (horderly.safe _ hmem _ hresult)
  have hsite : site ((writeAll (p.generated overrides t)).run t).2 w.1.output.dir = t.site w.1.output.dir := by
    unfold site
    rw [hprogress.origin _ hmem]
  rw [hsite]
  refine ⟨hresult, hintact.holds, hdistinct, fun f hf => ?_, fun s content hfile => ?_⟩
  · rw [hintact.holds]
    exact delivered_of_mem hdistinct hf
  · rw [hintact.holds] at hfile
    exact mem_of_delivered hfile

/-! ## Two runtimes -/

theorem plan_nil (layout : Layout) : plan layout (disambiguate []) = .ok [] := by
  have hnone : plannedDeclarations [] = [] := by
    simp [plannedDeclarations, reachableKeys, closeKeys]
  have hsame : disambiguate [] = [] := rfl
  unfold plan ownedFiles
  rw [hsame, hnone]
  simp [clientFiles]
  rfl

/-- Without services, a target that needs no companions is its runtime alone. -/
theorem generateTarget_nil {target : Target}
    (h : target.emitter.companions [⟨target.emitter.runtimePath, target.emitter.runtimeText m, none⟩] = []) :
    generateTarget [] target m = .ok [⟨target.emitter.runtimePath, target.emitter.runtimeText m, none⟩] := by
  refine generateTarget_eq_ok_iff.mpr ⟨[], [], plan_nil _, rfl, ?_, ?_⟩
  · simp [allFiles, renderedFiles, h, firstRepeated?]
  · simp [allFiles, renderedFiles, h]

/-- A project without classes. -/
def bareProject : Project :=
  ⟨⟨"rpcgen", "0.1.0", [], []⟩, "."⟩

/-- A tree without anything. -/
def emptyTree : FileTree :=
  ⟨[], []⟩

/-- Outputs for two targets. -/
def scriptOutputs (ts js : String) : List OutputTarget :=
  [⟨.typeScript, ts⟩, ⟨.javaScript, js⟩]

def runtimeFile (target : Target) : OutputFile :=
  ⟨target.emitter.runtimePath, target.emitter.runtimeText .standard, none⟩

def runtimeResults (ts js : String) : List TargetResult :=
  [⟨⟨.typeScript, ts⟩, .ok [runtimeFile .typeScript]⟩, ⟨⟨.javaScript, js⟩, .ok [runtimeFile .javaScript]⟩]

/-- Without classes, there are only runtimes. -/
theorem generated_scripts (ts js : String) (t : FileTree) :
    bareProject.generated (scriptOutputs ts js) t = runtimeResults ts js := by
  have hts : generateTarget [] .typeScript .standard = .ok [runtimeFile .typeScript] := generateTarget_nil rfl
  have hjs : generateTarget [] .javaScript .standard = .ok [runtimeFile .javaScript] := generateTarget_nil rfl
  have hbuilt : successes ((bareProject.services : StateM FileTree _).run t).1 = [] := rfl
  have hmetadata : bareProject.config.metadata = .standard := rfl
  have houtputs : (successes (bareProject.targets (scriptOutputs ts js))).eraseDups = scriptOutputs ts js := by
    simp [Project.targets, scriptOutputs, successes, List.eraseDups_cons, Except.toOption]
  unfold Project.generated generate
  rw [hbuilt, houtputs, hmetadata]
  simp only [scriptOutputs, List.map_cons, List.map_nil, hts, hjs]
  rfl

/-- If two of two outputs have been written, these are both. -/
theorem written_scripts {ts js : String} (hsublist : List.Sublist (written.map Prod.fst) (runtimeResults ts js))
    (hlength : written.length = 2) (hresult : ∀ w ∈ written, w.1.result = .ok w.2) :
    written = [(⟨⟨.typeScript, ts⟩, .ok [runtimeFile .typeScript]⟩, [runtimeFile .typeScript]),
      (⟨⟨.javaScript, js⟩, .ok [runtimeFile .javaScript]⟩, [runtimeFile .javaScript])] := by
  have hall := hsublist.eq_of_length (by rw [List.length_map, hlength]; rfl)
  obtain ⟨first, second, rfl⟩ := List.length_eq_two.mp hlength
  obtain ⟨r₁, files₁⟩ := first
  obtain ⟨r₂, files₂⟩ := second
  have hfirst := hresult (r₁, files₁) (by simp)
  have hsecond := hresult (r₂, files₂) (by simp)
  simp only [List.map_cons, List.map_nil, runtimeResults, List.cons.injEq, and_true] at hall
  obtain ⟨rfl, rfl⟩ := hall
  cases hfirst
  cases hsecond
  rfl

theorem origin_emptyTree (path : String) : emptyTree.origin path = [] := by
  unfold origin
  split
  · rfl
  · rfl

/-- Directories beside each other do not get into each other's way. -/
theorem orderly_scripts : Orderly emptyTree (runtimeResults "out/ts" "out/js") := by
  have hdirs : ∀ r ∈ runtimeResults "out/ts" "out/js", r.output.dir = "out/ts" ∨ r.output.dir = "out/js" := by
    simp [runtimeResults]
  have hsteps : Files.steps "out/ts" = ["out", "ts"] ∧ Files.steps "out/js" = ["out", "js"] := by decide
  have hname : Files.fileName? "out/ts" ≠ none ∧ Files.fileName? "out/js" ≠ none := by decide
  have hsite : emptyTree.site "out/ts" = ["out", "ts"] ∧ emptyTree.site "out/js" = ["out", "js"] := by
    decide
  have hisName : IsName "out" ∧ IsName "ts" ∧ IsName "js" :=
    ⟨⟨by decide, by decide, by decide⟩, ⟨by decide, by decide, by decide⟩, ⟨by decide, by decide, by decide⟩⟩
  -- The paths have names only, so that it is enough to compare the places that they lead to.
  refine orderly_of_names ?_ ?_ ?_ ?_ ?_
  · intro r hr files hfiles f hf
    rcases List.mem_pair.mp hr with rfl | rfl
    · cases hfiles
      rw [List.mem_singleton.mp hf]
      exact runtimePath_safe .typeScript
    · cases hfiles
      rw [List.mem_singleton.mp hf]
      exact runtimePath_safe .javaScript
  · intro r hr
    rcases hdirs r hr with hdir | hdir
    · rw [hdir, hsteps.1]
      simpa using ⟨hisName.1, hisName.2.1⟩
    · rw [hdir, hsteps.2]
      simpa using ⟨hisName.1, hisName.2.2⟩
  · intro r hr
    rcases hdirs r hr with hdir | hdir
    · rw [hdir]
      exact hname.1
    · rw [hdir]
      exact hname.2
  · intro r _ r' _
    rw [origin_emptyTree, origin_emptyTree]
  · refine List.pairwise_pair.mpr (.inr ?_)
    simp only [hsite]
    unfold Separate
    decide

/-- What becomes of both runtimes, if both are written. -/
theorem holdsExactly_scripts {ts js : String} (h : bareProject.KeepsWritten (scriptOutputs ts js) emptyTree)
    (hboth : successes ((writeAll (runtimeResults ts js)).run emptyTree).1 = [(ts, 1), (js, 1)]) :
    ∃ t', t' = ((writeAll (runtimeResults ts js)).run emptyTree).2 ∧
      HoldsExactly t' (t'.site ts) [runtimeFile .typeScript] ∧
      HoldsExactly t' (t'.site js) [runtimeFile .javaScript] := by
  obtain ⟨report, t', hrun, written, hsublist, hwritten, hholds⟩ := h
  obtain ⟨report', hrun', hreport⟩ := start_writeClients bareProject (scriptOutputs ts js) emptyTree
  rw [generated_scripts] at hsublist hreport hrun'
  obtain ⟨hsame, htree⟩ := Prod.mk.inj (hrun.symm.trans hrun')
  rw [← Except.ok.inj hsame, hboth] at hreport
  have hlength : written.length = 2 := by
    have hcounts := congrArg List.length (hwritten.symm.trans hreport)
    rwa [List.length_map] at hcounts
  have hlist := written_scripts hsublist hlength fun w hw => (hholds w hw).1
  rw [hlist] at hholds
  exact ⟨t', htree, (hholds _ List.mem_cons_self).2, (hholds _ (List.mem_cons_of_mem _ List.mem_cons_self)).2⟩

/-- Both runtimes are there at the end. -/
theorem writeClients_keepsWritten_scripts :
    ∃ t', t' = ((writeAll (runtimeResults "out/ts" "out/js")).run emptyTree).2 ∧
      HoldsExactly t' (t'.site "out/ts") [runtimeFile .typeScript] ∧
      HoldsExactly t' (t'.site "out/js") [runtimeFile .javaScript] := by
  have hgrounded : emptyTree.Grounded := grounded_of_entries (by simp [emptyTree])
  have horderly : Orderly emptyTree (bareProject.generated (scriptOutputs "out/ts" "out/js") emptyTree) := by
    rw [generated_scripts]
    exact orderly_scripts
  exact holdsExactly_scripts (writeClients_keepsWritten hgrounded horderly) (by decide +kernel)

/-- What is reported as written may be gone at the end: the second output replaces the directory that the first
one is in. -/
theorem not_keepsWritten :
    ¬∀ (p : Project) (overrides : List OutputTarget) (t : FileTree), t.Grounded → p.KeepsWritten overrides t := by
  intro h
  have hkeeps := h bareProject (scriptOutputs "out/ts" "out") emptyTree (grounded_of_entries (by simp [emptyTree]))
  obtain ⟨t', htree, hexact, -⟩ := holdsExactly_scripts hkeeps (by decide +kernel)
  -- The TypeScript runtime is gone with the directory in which it has been.
  have hgone : entry? ((writeAll (runtimeResults "out/ts" "out")).run emptyTree).2
      (site ((writeAll (runtimeResults "out/ts" "out")).run emptyTree).2 "out/ts" ++
        Files.steps (runtimeFile .typeScript).path) = none := by decide +kernel
  have hthere := hexact.each _ List.mem_cons_self
  rw [htree, hgone] at hthere
  cases hthere

end ServiceStubs
