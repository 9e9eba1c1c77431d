import ServiceStubs.Proofs.Files.Change

/-!
# Files that are delivered

What a directory holds after files have been written into it one after the other: the files, the later one of
two with one path, and the directories that they need.

* `delivered` is what is at a place below the directory, and `HoldsAt` says that all of it is there;
* `missing_below` says what has to be made for a file;
* `writeInto_delivers` is the case of one file, and `writeFiles_delivers` of any number;
* `writeDirectory_delivers` makes the directory first, and removes it again if a file cannot be written.
-/

namespace ServiceStubs

open FileTree

/-- A path that leads down: it is relative, and none of its segments leads up. -/
structure LeadsDown (path : String) : Prop where
  relative : ¬Files.isAbsolute path
  down : ".." ∉ Text.splitOn '/' path

theorem LeadsDown.names {path : String} (h : LeadsDown path) : ∀ s ∈ Files.steps path, IsName s := by
  intro s hs
  obtain ⟨hmem, hstep⟩ := List.mem_filter.mp hs
  simp only [Files.isStep, Bool.and_eq_true, decide_eq_true_iff] at hstep
  exact ⟨hstep.1, hstep.2, fun hup => h.down (hup ▸ hmem)⟩

/-- What is below a directory after files have been written into it. -/
def delivered (files : List OutputFile) (s : TreePlace) : Option Entry :=
  match files.reverse.find? fun f => Files.steps f.path = s with
  | some f => some (.file (.text f.content))
  | none =>
    if s = [] ∨ files.any fun f => s.isPrefixOf (Files.steps f.path) then some .directory else none

/-- Exactly the given files are below a place. -/
def HoldsAt (t : FileTree) (place : TreePlace) (files : List OutputFile) : Prop :=
  ∀ s, t.entry? (place ++ s) = delivered files s

theorem delivered_nil (s : TreePlace) : delivered [] s = if s = [] then some .directory else none := by
  unfold delivered
  simp

/-- The last file is where its path says. -/
theorem delivered_concat_self (files : List OutputFile) (f : OutputFile) :
    delivered (files ++ [f]) (Files.steps f.path) = some (.file (.text f.content)) := by
  unfold delivered
  simp

/-- The last file needs the directories on its way, where no file is. -/
theorem delivered_concat_directory {files : List OutputFile} {f : OutputFile} {s : TreePlace}
    (hs : s <+: Files.steps f.path) (hne : s ≠ Files.steps f.path)
    (hbefore : delivered files s = none ∨ delivered files s = some .directory) :
    delivered (files ++ [f]) s = some .directory := by
  have hnone : files.reverse.find? (fun f => Files.steps f.path = s) = none := by
    rcases hfind : files.reverse.find? (fun f => Files.steps f.path = s) with _ | g
    · exact hfind
    · unfold delivered at hbefore
      rw [hfind] at hbefore
      rcases hbefore with hbefore | hbefore <;> cases hbefore
  unfold delivered
  rw [List.reverse_append, List.reverse_singleton, List.singleton_append,
    List.find?_cons_of_neg (by simpa using hne.symm), hnone]
  simp [hs]

/-- The last file does not change anything else. -/
theorem delivered_concat_other {files : List OutputFile} {f : OutputFile} {s : TreePlace}
    (hs : ¬s <+: Files.steps f.path) : delivered (files ++ [f]) s = delivered files s := by
  have hne : s ≠ Files.steps f.path := fun heq => hs (heq ▸ List.prefix_refl _)
  unfold delivered
  rw [List.reverse_append, List.reverse_singleton, List.singleton_append,
    List.find?_cons_of_neg (by simpa using hne.symm)]
  simp [hs]

/-- A proper beginning of a list is a beginning of the list without its last member. -/
theorem prefix_dropLast_iff {α : Type} {front names : List α} (hne : names ≠ []) :
    front <+: names.dropLast ↔ front <+: names ∧ front ≠ names := by
  obtain ⟨outer, last, rfl⟩ : ∃ outer last, names = outer ++ [last] :=
    ⟨names.dropLast, names.getLast hne, (List.dropLast_concat_getLast hne).symm⟩
  rw [List.dropLast_concat]
  constructor
  · intro h
    refine ⟨h.trans (List.prefix_append outer [last]), ?_⟩
    rintro rfl
    have hlength := h.length_le
    rw [List.length_append, List.length_singleton] at hlength
    omega
  · rintro ⟨h, hneq⟩
    exact (List.prefix_concat_iff.mp h).resolve_left hneq

/-! ## Parents -/

theorem start_demand (activity : Activity) (operation : TreeWork Bool) (t : FileTree) :
    start (demand activity operation) t =
      match start operation t with
      | (.ok true, t') => (.ok (), t')
      | (.ok false, t') => (.error (.refused activity), t')
      | (.error failure, t') => (.error failure, t') := by
  unfold demand
  rw [start_bind]
  rcases start operation t with ⟨r, t'⟩
  cases r with
  | error failure => rfl
  | ok done => cases done <;> rfl

/-- The directories that are made in order to hold a place are on the way to it, and if they can be made, all
of this way is directories. -/
theorem makeParents_adds (path : String) {t : FileTree} (hroot : t.isDirectory (t.origin path)) :
    ∃ r t', start (makeParents path : TreeWork Unit) t = (r, t') ∧ Adds (t.approach path) t t' ∧
      (r = .ok () → ∀ q ∈ t.approach path, t'.isDirectory q) := by
  -- Where there is no parent to be made, the way is the origin alone.
  have htrivial : (Files.steps path).dropLast = [] →
      ∀ q ∈ t.approach path, t.isDirectory q := by
    intro hnil q hq
    unfold approach at hq
    rw [hnil] at hq
    rwa [List.mem_singleton.mp hq]
  unfold makeParents
  rcases hparent : Files.parent? path with _ | parent
  · refine ⟨.ok (), t, rfl, .refl _ t, fun _ => htrivial ?_⟩
    unfold Files.parent? at hparent
    rcases hbody : Files.bodyBackward path with _ | ⟨last, outer⟩
    · rw [Files.steps_eq_body, hbody]
      rfl
    · rw [hbody] at hparent
      cases hparent
  · obtain ⟨hsteps, habsolute⟩ := Files.steps_parent? hparent
    dsimp only
    split
    · rename_i hempty
      subst hempty
      exact ⟨.ok (), t, rfl, .refl _ t, fun _ => htrivial (hsteps.symm.trans Files.steps_empty)⟩
    · rename_i hne
      have hadds := makeDirectories_adds t parent
      rw [origin_congr rfl habsolute, hsteps] at hadds
      rw [start_demand, start_makeDirectories]
      rcases hmade : t.makeDirectories parent with ⟨made, t'⟩
      rw [hmade] at hadds
      cases made with
      | false => exact ⟨_, t', rfl, hadds, by simp⟩
      | true =>
        refine ⟨_, t', rfl, hadds, fun _ => ?_⟩
        have hway := way_of_makeDirectories hne (by rw [hmade])
        rwa [hmade, origin_congr rfl habsolute, hsteps] at hway

/-! ## Files -/

variable {directory : String} {inside : TreePlace} {t : FileTree}

/-- The way to a file goes on from that to its directory. -/
theorem approach_join {f : OutputFile} (hf : LeadsDown f.path) (hne : Files.steps f.path ≠ []) :
    t.approach (Files.join directory f.path) =
      way (t.origin directory) (Files.steps directory ++ (Files.steps f.path).dropLast) := by
  obtain ⟨hsteps, habsolute⟩ := Files.steps_join directory hf.relative
  unfold approach
  rw [origin_congr rfl habsolute, hsteps, List.dropLast_append_of_ne_nil hne]

/-- What is missing on the way to a file is below its directory, on the way from there. -/
theorem missing_below (hne : directory ≠ "") (hdirectory : t.DirectoryAt directory inside) {f : OutputFile}
    (hf : LeadsDown f.path) {q : TreePlace} (hq : q ∈ t.approach (Files.join directory f.path))
    (hfree : t.entry? q = none) :
    ∃ front, front <+: Files.steps f.path ∧ front ≠ Files.steps f.path ∧ q = inside ++ front := by
  obtain ⟨hplace, hway⟩ := (directoryAt_iff hne).mp hdirectory
  -- All of the way to the directory is there.
  have hnot : q ∉ way (t.origin directory) (Files.steps directory) := by
    intro hmem
    have hthere := hway q hmem
    unfold isDirectory at hthere
    rw [hfree] at hthere
    cases hthere
  by_cases hnil : Files.steps f.path = []
  · -- The file is the directory itself, and the way to it a part of the way that is there.
    obtain ⟨hsteps, habsolute⟩ := Files.steps_join directory hf.relative
    unfold approach at hq
    rw [origin_congr rfl habsolute, hsteps, hnil, List.append_nil] at hq
    exact absurd (mem_way_of_dropLast hq) hnot
  · rw [approach_join hf hnil] at hq
    have hbelow := (mem_way_append.mp hq).resolve_left hnot
    rw [← hplace] at hbelow
    obtain ⟨front, hfront, heq⟩ :=
      (mem_way_names fun s hs => hf.names s (List.dropLast_subset _ hs)).mp hbelow
    obtain ⟨hunder, hproper⟩ := (prefix_dropLast_iff hnil).mp hfront
    exact ⟨front, hunder, hproper, heq⟩

/-- One more file, and the directories on the way to it. -/
theorem HoldsAt.put {done : List OutputFile} (hdone : HoldsAt t inside done) {f : OutputFile} {t₁ : FileTree}
    (hroot : inside ++ Files.steps f.path ≠ [])
    (hmade : ∀ front, front <+: Files.steps f.path → front ≠ Files.steps f.path →
      t₁.entry? (inside ++ front) = some .directory ∧
        (t.entry? (inside ++ front) = none ∨ t.entry? (inside ++ front) = some .directory))
    (hother : ∀ s, ¬s <+: Files.steps f.path → t₁.entry? (inside ++ s) = t.entry? (inside ++ s)) :
    HoldsAt (t₁.put (inside ++ Files.steps f.path) (.file (.text f.content))) inside (done ++ [f]) := by
  intro s
  by_cases hs : s = Files.steps f.path
  · rw [hs, at_put_self _ hroot, delivered_concat_self]
  · rw [at_put_of_ne _ (by simpa using hs)]
    by_cases hfront : s <+: Files.steps f.path
    · obtain ⟨hthere, hbefore⟩ := hmade s hfront hs
      rw [hdone s] at hbefore
      rw [hthere, delivered_concat_directory hfront hs hbefore]
    · rw [delivered_concat_other hfront, ← hdone s]
      exact hother s hfront

section Making

variable {f : OutputFile} {t₁ : FileTree} (hne : directory ≠ "") (hdirectory : t.DirectoryAt directory inside)
  (hf : LeadsDown f.path) (hadds : Adds (t.approach (Files.join directory f.path)) t t₁)

include hne hdirectory hf hadds

/-- What is made on the way to a file is below its directory. -/
theorem within_of_adds : Within inside t t₁ := by
  refine ⟨hadds.working, fun q hq => ?_, fun q => hadds.isDirectory⟩
  refine (hadds.entries q).resolve_right ?_
  rintro ⟨hmem, hfree, -⟩
  obtain ⟨front, -, -, rfl⟩ := missing_below hne hdirectory hf hmem hfree
  exact hq (List.prefix_append inside front)

/-- When the way to a file has been made, the file can take its place. -/
theorem HoldsAt.deliver {done : List OutputFile} (hdone : HoldsAt t inside done) (hnil : Files.steps f.path ≠ [])
    (hmade : ∀ q ∈ t.approach (Files.join directory f.path), t₁.isDirectory q) :
    HoldsAt (t₁.put (inside ++ Files.steps f.path) (.file (.text f.content))) inside (done ++ [f]) := by
  have hplace := ((directoryAt_iff hne).mp hdirectory).1
  refine hdone.put (by simp [hnil]) (fun front hunder hproper => ?_) fun s hs => ?_
  · -- What a file is in is a directory by now, and was one or nothing before.
    have hmem : inside ++ front ∈ t.approach (Files.join directory f.path) := by
      rw [approach_join hf hnil, mem_way_append, ← hplace]
      refine .inr ((mem_way_names fun s hs => hf.names s (List.dropLast_subset _ hs)).mpr ?_)
      exact ⟨front, (prefix_dropLast_iff hnil).mpr ⟨hunder, hproper⟩, rfl⟩
    have hthere : t₁.entry? (inside ++ front) = some .directory := by
      simpa [isDirectory] using hmade _ hmem
    refine ⟨hthere, ?_⟩
    rcases hadds.entries (inside ++ front) with heq | ⟨-, hnone, -⟩
    · exact .inr (heq.symm.trans hthere)
    · exact .inl hnone
  · refine (hadds.entries _).resolve_right ?_
    rintro ⟨hmem, hnone, -⟩
    obtain ⟨front, hunder, -, heq⟩ := missing_below hne hdirectory hf hmem hnone
    exact hs (List.append_cancel_left heq ▸ hunder)

end Making

/-- One file is written into a directory. -/
theorem writeInto_delivers (hne : directory ≠ "") (hdirectory : t.DirectoryAt directory inside)
    {done : List OutputFile} (hdone : HoldsAt t inside done) {f : OutputFile}
    (hf : LeadsDown f.path) :
    ∃ r t', start (writeInto directory f : TreeWork Unit) t = (r, t') ∧ Within inside t t' ∧
      (r = .ok () → HoldsAt t' inside (done ++ [f])) := by
  obtain ⟨hplace, hway⟩ := (directoryAt_iff hne).mp hdirectory
  obtain ⟨hsteps, habsolute⟩ := Files.steps_join directory hf.relative
  have horigin : t.origin (Files.join directory f.path) = t.origin directory := origin_congr rfl habsolute
  have hroot : t.isDirectory (t.origin (Files.join directory f.path)) := by
    rw [horigin]
    exact hway _ (mem_way_self _ _)
  obtain ⟨r, t₁, hmake, hadds, hmade⟩ := makeParents_adds (Files.join directory f.path) hroot
  have hwithin : Within inside t t₁ := within_of_adds hne hdirectory hf hadds
  unfold writeInto
  dsimp only
  rw [start_bind, hmake]
  cases r with
  | error failure => exact ⟨_, t₁, rfl, hwithin, by simp⟩
  | ok done' =>
    dsimp only
    rw [start_demand, start_writeText]
    rcases hwrite : t₁.writeText? (Files.join directory f.path) f.content with _ | t₂
    · exact ⟨_, t₁, rfl, hwithin, by simp⟩
    · obtain ⟨place, hlocated, hfree, rfl⟩ := writeText?_eq_some hwrite
      obtain rfl : place = inside ++ Files.steps f.path := by
        have hgoal := locate?_eq_goal hlocated
        rw [origin_congr hadds.working habsolute, hsteps, goal_append, ← hplace] at hgoal
        rw [hgoal]
        exact goal_names inside hf.names
      refine ⟨_, _, rfl, hwithin.trans (put_within _ (List.prefix_append _ _) hfree), fun _ => ?_⟩
      -- A file is not written over the directory itself.
      have hnil : Files.steps f.path ≠ [] := by
        intro hnil
        rw [hnil, List.append_nil] at hfree
        exact hfree (hwithin.directories _ hdirectory.directory)
      exact hdone.deliver hne hdirectory hf hadds hnil (hmade rfl)

/-- Any number of files are written into a directory. -/
theorem writeFiles_delivers (hne : directory ≠ "") (hdirectory : t.DirectoryAt directory inside)
    {done : List OutputFile} (hdone : HoldsAt t inside done) {files : List OutputFile}
    (hfiles : ∀ f ∈ files, LeadsDown f.path) :
    ∃ r t', start (files.forM (writeInto directory) : TreeWork Unit) t = (r, t') ∧ Within inside t t' ∧
      (r = .ok () → HoldsAt t' inside (done ++ files)) := by
  induction files generalizing t done with
  | nil => exact ⟨.ok (), t, rfl, .refl inside t, fun _ s => by rw [List.append_nil]; exact hdone s⟩
  | cons f rest ih =>
    obtain ⟨r, t₁, hwrite, hwithin, hdone'⟩ :=
      writeInto_delivers hne hdirectory hdone (hfiles f List.mem_cons_self)
    have hcons : (f :: rest).forM (writeInto directory : OutputFile → TreeWork Unit) =
        (writeInto directory f >>= fun _ => rest.forM (writeInto directory)) := rfl
    rw [hcons, start_bind, hwrite]
    cases r with
    | error failure => exact ⟨_, t₁, rfl, hwithin, by simp⟩
    | ok done'' =>
      obtain ⟨r, t₂, hrest, hwithin', hall⟩ := ih (hdirectory.within hwithin) (hdone' rfl)
        fun g hg => hfiles g (List.mem_cons_of_mem f hg)
      refine ⟨r, t₂, hrest, hwithin.trans hwithin', fun hok s => ?_⟩
      rw [hall hok s, List.append_assoc]
      rfl

/-- A directory is made where nothing is and files are written into it. If that cannot be done, only what is
below it may have changed. -/
theorem writeDirectory_delivers (hsited : t.Sited directory inside) (hfree : ∀ s, t.entry? (inside ++ s) = none)
    {files : List OutputFile} (hfiles : ∀ f ∈ files, LeadsDown f.path) :
    ∃ r t', start (writeDirectory directory files : TreeWork Unit) t = (r, t') ∧ t'.working = t.working ∧
      (∀ q, ¬inside <+: q → t'.entry? q = t.entry? q) ∧
      (r = .ok () → t'.isDirectory inside ∧ HoldsAt t' inside files) := by
  have hfree' : t.entry? inside = none := by simpa using hfree []
  have hmade := hsited.makeDirectories_eq hfree'
  have hwithin : Within inside t (t.put inside .directory) :=
    put_within _ (List.prefix_refl _) (by simp [isDirectory, hfree'])
  have hdirectory : (t.put inside .directory).DirectoryAt directory inside := by
    refine ⟨locate?_mono hwithin.working hwithin.directories hsited.locate?_eq, ?_⟩
    simp [isDirectory, at_put_self _ (ne_root_of_free hfree')]
  have hempty : HoldsAt (t.put inside .directory) inside [] := by
    intro s
    rw [delivered_nil]
    by_cases hs : s = []
    · subst hs
      simp [at_put_self _ (ne_root_of_free hfree')]
    · rw [at_put_of_ne _ (by simpa using hs), hfree, if_neg hs]
  obtain ⟨r, t₁, hwrite, hwithin', hall⟩ := writeFiles_delivers hsited.name.path_ne hdirectory hempty hfiles
  have hchanges := hwithin.trans hwithin'
  unfold writeDirectory
  rw [start_bind, start_demand, start_makeDirectories, hmade]
  dsimp only
  unfold orUndo
  rw [start_tryCatch, hwrite]
  cases r with
  | ok done =>
    exact ⟨.ok (), t₁, rfl, hchanges.working, hchanges.outside,
      fun _ => ⟨(hdirectory.within hwithin').directory, hall rfl⟩⟩
  | error failure =>
    -- The directory that has been made is removed again.
    have hremove : t₁.removeDirectory? directory = some (t₁.cut inside) := by
      unfold removeDirectory?
      rw [(hdirectory.within hwithin').find]
    dsimp only
    rw [start_bind, start_discard, start_removeDirectory, hremove]
    refine ⟨.error failure, t₁.cut inside, rfl, hchanges.working, fun q hq => ?_, by simp⟩
    rw [at_cut hq]
    exact hchanges.outside q hq

end ServiceStubs
