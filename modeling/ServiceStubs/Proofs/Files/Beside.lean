import ServiceStubs.Proofs.Files.Grounded

/-!
# Hidden directories beside others

The places of the two hidden directories that replacing a directory uses, and the paths that name them.

* `FileTree.staging` and `FileTree.backup` are the places, and `Touches` says what is at or below one of them
  or of the directory itself;
* `Elsewhere` compares trees that differ only there;
* `Ready.sited` says that the paths of hidden directories name their places, as soon as the directories on the
  way are there and none of them is touched.
-/

namespace ServiceStubs

/-- The path of the directory in which the new files are collected. -/
def stagingPath (directory name : String) : String :=
  Files.sibling directory ("." ++ name ++ ".rpcgen-staging")

/-- The path to which the old directory is moved. -/
def backupPath (directory name : String) : String :=
  Files.sibling directory ("." ++ name ++ ".rpcgen-old")

namespace FileTree

/-! ## Places -/

/-- The place that a path names, if there is a way to it. -/
def site (t : FileTree) (path : String) : TreePlace :=
  goal (t.origin path) (Files.steps path)

/-- The place of something hidden beside another one. -/
def beside (place : TreePlace) (suffix : String) : TreePlace :=
  place.dropLast ++ ["." ++ place.getLastD "" ++ suffix]

/-- The place at which a new directory is made. -/
def staging (place : TreePlace) : TreePlace :=
  beside place ".rpcgen-staging"

/-- The place to which an old directory is moved. -/
def backup (place : TreePlace) : TreePlace :=
  beside place ".rpcgen-old"

/-- A place is at or below one that is used when a directory is replaced. -/
def Touches (place other : TreePlace) : Prop :=
  place <+: other ∨ staging place <+: other ∨ backup place <+: other

variable {t t' t'' : FileTree} {place : TreePlace} {directory path name : String}

@[simp] theorem beside_concat (holder : TreePlace) (name suffix : String) :
    beside (holder ++ [name]) suffix = holder ++ ["." ++ name ++ suffix] := by
  simp [beside]

theorem separate_of_length_ne (holder : TreePlace) {a b : String} (h : a.length ≠ b.length) :
    Separate (holder ++ [a]) (holder ++ [b]) := by
  have hnot : ∀ {a b : String}, a.length ≠ b.length → ¬holder ++ [a] <+: holder ++ [b] := by
    intro a b h hunder
    have heq := hunder.eq_of_length (by simp)
    simp only [List.append_cancel_left_eq, List.cons.injEq, and_true] at heq
    exact h (congrArg String.length heq)
  exact ⟨hnot h, hnot h.symm⟩

theorem separate_staging (hne : place ≠ []) : Separate place (staging place) := by
  obtain ⟨holder, name, rfl⟩ := (List.eq_nil_or_concat place).resolve_left hne
  rw [List.concat_eq_append, staging, beside_concat]
  refine separate_of_length_ne holder ?_
  have hsuffix : ".rpcgen-staging".length = 15 := by decide
  simp only [String.length_append]
  omega

theorem separate_backup (hne : place ≠ []) : Separate place (backup place) := by
  obtain ⟨holder, name, rfl⟩ := (List.eq_nil_or_concat place).resolve_left hne
  rw [List.concat_eq_append, backup, beside_concat]
  refine separate_of_length_ne holder ?_
  have hsuffix : ".rpcgen-old".length = 11 := by decide
  simp only [String.length_append]
  omega

theorem separate_staging_backup (place : TreePlace) : Separate (staging place) (backup place) := by
  refine separate_of_length_ne place.dropLast ?_
  have hstaging : ".rpcgen-staging".length = 15 := by decide
  have hbackup : ".rpcgen-old".length = 11 := by decide
  simp only [String.length_append]
  omega

theorem staging_ne_root (place : TreePlace) : staging place ≠ [] := by
  simp [staging, beside]

theorem backup_ne_root (place : TreePlace) : backup place ≠ [] := by
  simp [backup, beside]

theorem touches_self (q : TreePlace) (h : place <+: q) : Touches place q :=
  .inl h

theorem touches_staging (q : TreePlace) (h : staging place <+: q) : Touches place q :=
  .inr (.inl h)

theorem touches_backup (q : TreePlace) (h : backup place <+: q) : Touches place q :=
  .inr (.inr h)

/-! ## Changes beside a place -/

/-- Nothing is at a place or below it. -/
def FreeAt (t : FileTree) (place : TreePlace) : Prop :=
  ∀ s, t.entry? (place ++ s) = none

/-- What was at a place or below it is still there. -/
def SameAt (place : TreePlace) (t t' : FileTree) : Prop :=
  ∀ s, t'.entry? (place ++ s) = t.entry? (place ++ s)

theorem sameAt_of_outside {other : TreePlace} (hseparate : Separate other place)
    (h : ∀ q, ¬other <+: q → t'.entry? q = t.entry? q) : SameAt place t t' :=
  fun s => h _ (hseparate.not_below s)

theorem SameAt.trans {t'' : FileTree} (h : SameAt place t t') (h' : SameAt place t' t'') : SameAt place t t'' :=
  fun s => (h' s).trans (h s)

/-- The trees differ only at the places that are used when a directory is replaced. -/
structure Elsewhere (place : TreePlace) (t t' : FileTree) : Prop where
  working : ¬Touches place t.working → t'.working = t.working
  outside : ∀ q, ¬Touches place q → t'.entry? q = t.entry? q

theorem Elsewhere.refl (place : TreePlace) (t : FileTree) : Elsewhere place t t :=
  ⟨fun _ => rfl, fun _ _ => rfl⟩

theorem Elsewhere.trans (h : Elsewhere place t t') (h' : Elsewhere place t' t'') : Elsewhere place t t'' := by
  refine ⟨fun hnot => ?_, fun q hq => (h'.outside q hq).trans (h.outside q hq)⟩
  have heq := h.working hnot
  exact (h'.working (heq ▸ hnot)).trans heq

/-- Changes at one of the places. -/
theorem elsewhere_of_outside {other : TreePlace} (htouches : ∀ q, other <+: q → Touches place q)
    (hworking : t'.working = t.working) (h : ∀ q, ¬other <+: q → t'.entry? q = t.entry? q) :
    Elsewhere place t t' :=
  ⟨fun _ => hworking, fun q hq => h q fun hunder => hq (htouches q hunder)⟩

/-- Moving one of the places to another one changes nothing else. -/
theorem Moved.elsewhere {source target : TreePlace} (h : Moved source target t t')
    (hsource : ∀ q, source <+: q → Touches place q) (htarget : ∀ q, target <+: q → Touches place q) :
    Elsewhere place t t' := by
  refine ⟨fun hnot => ?_, fun q hq => h.outside q (fun h => hq (hsource q h)) fun h => hq (htarget q h)⟩
  rw [h.working, moved_outside fun h => hnot (hsource _ h)]

/-! ## Paths -/

/-- A path leads to a place without passing through what is used when the place is replaced. -/
def Direct (t : FileTree) (path : String) : Prop :=
  ∀ q ∈ t.approach path, ¬Touches (t.site path) q

/-- The directories on the way to a place are there, and none of them is used when the place is replaced. -/
structure Ready (t : FileTree) (directory : String) (place : TreePlace) : Prop where
  grounded : t.Grounded
  place_eq : place = t.site directory
  direct : ∀ q ∈ t.approach directory, ¬Touches place q
  holder : ∀ q ∈ t.approach directory, t.isDirectory q

/-- The place at which a path starts is on the way. -/
theorem origin_mem_approach (t : FileTree) (path : String) : t.origin path ∈ t.approach path :=
  mem_way_self _ _

theorem origin_of_elsewhere (h : Elsewhere place t t') (hdirect : ¬Touches place (t.origin path)) :
    t'.origin path = t.origin path := by
  unfold origin at hdirect ⊢
  split
  · rfl
  · rename_i hrelative
    rw [if_neg hrelative] at hdirect
    exact h.working hdirect

theorem Ready.elsewhere (h : Ready t directory place) (hchange : Elsewhere place t t') (hgrounded : t'.Grounded) :
    Ready t' directory place := by
  have horigin : t'.origin directory = t.origin directory :=
    origin_of_elsewhere hchange (h.direct _ (origin_mem_approach t directory))
  have happroach : t'.approach directory = t.approach directory := by
    unfold approach
    rw [horigin]
  refine ⟨hgrounded, ?_, ?_, ?_⟩
  · rw [h.place_eq]
    unfold site
    rw [horigin]
  · rw [happroach]
    exact h.direct
  · rw [happroach]
    exact fun q hq => isDirectory_congr (hchange.outside q (h.direct q hq)) (h.holder q hq)

/-- The place of a path with a name is in the last one on the way. -/
theorem site_eq (t : FileTree) (h : Files.fileName? path = some name) :
    ∃ holder, t.site path = holder ++ [name] ∧ holder ∈ t.approach path := by
  obtain ⟨parent, -, hsteps, hname⟩ := Files.steps_of_fileName? h
  refine ⟨goal (t.origin path) (Files.steps parent), ?_, ?_⟩
  · unfold site
    rw [hsteps, goal_append]
    exact goal_names _ (by simpa using hname)
  · unfold approach
    rw [hsteps, List.dropLast_concat]
    exact goal_mem_way _ _

theorem site_ne_root (t : FileTree) (h : Files.fileName? path = some name) : t.site path ≠ [] := by
  obtain ⟨holder, hsite, -⟩ := site_eq t h
  simp [hsite]

/-- A path that only leads down does not pass through where it leads. -/
theorem direct_of_names (h : Files.fileName? path = some name) (hnames : ∀ s ∈ Files.steps path, IsName s) :
    t.Direct path := by
  obtain ⟨holder, hsite, -⟩ := site_eq t h
  have hgoal : t.site path = t.origin path ++ Files.steps path := goal_names _ hnames
  intro q hq
  -- The place is longer than all that is passed on the way to it, and so are those beside it.
  have hshorter : q.length < (t.site path).length := by
    obtain ⟨front, hfront, rfl⟩ := (mem_way_names fun s hs => hnames s (List.dropLast_subset _ hs)).mp hq
    obtain ⟨parent, -, hsteps, -⟩ := Files.steps_of_fileName? h
    have hlength := hfront.length_le
    rw [hsteps, List.dropLast_concat] at hlength
    rw [hgoal, hsteps]
    simp only [List.length_append, List.length_singleton]
    omega
  have hsame : ∀ suffix, (beside (t.site path) suffix).length = (t.site path).length := by
    intro suffix
    rw [hsite, beside_concat]
    simp
  rintro (hunder | hunder | hunder)
  · exact absurd hunder.length_le (by omega)
  · have hlength := hunder.length_le
    rw [staging, hsame] at hlength
    omega
  · have hlength := hunder.length_le
    rw [backup, hsame] at hlength
    omega

/-- A suffix that makes the name of something hidden. -/
structure Hides (suffix : String) : Prop where
  slash : '/' ∉ suffix.toList
  length : 2 ≤ suffix.toList.length

theorem hides_staging : Hides ".rpcgen-staging" :=
  ⟨by decide, by decide⟩

theorem hides_old : Hides ".rpcgen-old" :=
  ⟨by decide, by decide⟩

theorem Hides.slash_not_mem {suffix : String} (h : Hides suffix) (hname : Files.fileName? directory = some name) :
    '/' ∉ ("." ++ name ++ suffix).toList := by
  simp only [String.toList_append, List.mem_append, not_or]
  exact ⟨⟨by decide, Files.slash_not_mem_fileName? hname⟩, h.slash⟩

theorem Hides.isName {suffix : String} (h : Hides suffix) (name : String) : IsName ("." ++ name ++ suffix) := by
  apply isName_of_length
  have hdot : ".".toList.length = 1 := by decide
  have hlength := h.length
  simp only [String.toList_append, List.length_append]
  omega

/-- The steps to something hidden beside a directory. -/
theorem steps_hidden (hname : Files.fileName? directory = some name) {suffix : String} (hhides : Hides suffix) :
    Files.steps (Files.sibling directory ("." ++ name ++ suffix)) =
        (Files.steps directory).dropLast ++ ["." ++ name ++ suffix] ∧
      Files.isAbsolute (Files.sibling directory ("." ++ name ++ suffix)) = Files.isAbsolute directory := by
  obtain ⟨parent, hparent, -, -⟩ := Files.steps_of_fileName? hname
  have hsingle : Files.steps ("." ++ name ++ suffix) = ["." ++ name ++ suffix] := by
    unfold Files.steps
    rw [Text.splitOn_of_not_mem (hhides.slash_not_mem hname),
      List.filter_cons_of_pos (Files.isStep_of_isName (hhides.isName name)), List.filter_nil]
  have hrelative : ¬Files.isAbsolute ("." ++ name ++ suffix) := by
    simp [Files.isAbsolute]
  obtain ⟨hsteps, habsolute⟩ := Files.steps_parent? hparent
  obtain ⟨hjoin, habsolute'⟩ := Files.steps_join parent hrelative
  unfold Files.sibling
  rw [hparent, Option.getD_some, hjoin, hsingle, hsteps]
  exact ⟨rfl, habsolute'.trans habsolute⟩

theorem origin_hidden (t : FileTree) (hname : Files.fileName? directory = some name) {suffix : String}
    (hhides : Hides suffix) : t.origin (Files.sibling directory ("." ++ name ++ suffix)) = t.origin directory :=
  origin_congr rfl (steps_hidden hname hhides).2

/-- The path of a hidden directory names the place beside that of the directory. -/
theorem Ready.sited (h : Ready t directory place) (hname : Files.fileName? directory = some name) {suffix : String}
    (hhides : Hides suffix) : t.Sited (Files.sibling directory ("." ++ name ++ suffix)) (beside place suffix) := by
  obtain ⟨parent, -, hparent, hisName⟩ := Files.steps_of_fileName? hname
  have hsteps := (steps_hidden hname hhides).1
  have horigin := origin_hidden t hname hhides
  refine ⟨Files.sibling_endsInName (hhides.slash_not_mem hname) (hhides.isName name), ?_, ?_⟩
  · have hhidden : ∀ s ∈ ["." ++ name ++ suffix], IsName s := by simpa using hhides.isName name
    have hdirectory : ∀ s ∈ [name], IsName s := by simpa using hisName
    rw [hsteps, horigin, goal_append, goal_names _ hhidden, h.place_eq]
    unfold site
    rw [hparent, goal_append, goal_names _ hdirectory, beside_concat, List.dropLast_concat]
  · unfold approach
    rw [hsteps, horigin, List.dropLast_concat]
    exact h.holder

theorem Ready.sited_staging (h : Ready t directory place) (hname : Files.fileName? directory = some name) :
    t.Sited (stagingPath directory name) (staging place) :=
  h.sited hname hides_staging

theorem Ready.sited_backup (h : Ready t directory place) (hname : Files.fileName? directory = some name) :
    t.Sited (backupPath directory name) (backup place) :=
  h.sited hname hides_old

end FileTree

end ServiceStubs
