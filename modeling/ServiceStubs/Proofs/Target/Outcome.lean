import Mathlib.Data.List.Forall2
import ServiceStubs.Proofs.Generate
import ServiceStubs.Proofs.Target.Companions
import ServiceStubs.Proofs.Target.Rendering

/-!
# How a target ends

Where equal keys are declared equally, there are three ways for a target to end, and all targets agree on the
first: an enum that some exposed method leads to mixes kinds of values; two of the planned files and the
runtime have one path; or there are files, in order of their paths.

* `plan_cases` says when there is a plan;
* `rendered_of_plan` says that whatever is planned can be rendered;
* `generateTarget_outcome` says how a target ends.
-/

namespace ServiceStubs

/-! ## Plans -/

/-- The declaration is the first of a list that is mixed. -/
def FirstMixed (ds : List Declaration) (d : Declaration) : Prop :=
  ∃ before after, ds = before ++ d :: after ∧ (∀ b ∈ before, ¬b.IsMixed) ∧ d.IsMixed

theorem FirstMixed.mem {ds : List Declaration} {d : Declaration} (h : FirstMixed ds d) : d ∈ ds := by
  obtain ⟨before, after, rfl, -, -⟩ := h
  simp

theorem FirstMixed.isMixed {ds : List Declaration} {d : Declaration} (h : FirstMixed ds d) : d.IsMixed := by
  obtain ⟨before, after, -, -, hmixed⟩ := h
  exact hmixed

/-- There is one first declaration that is mixed, at most. -/
theorem FirstMixed.unique {ds : List Declaration} {d d' : Declaration} (h : FirstMixed ds d)
    (h' : FirstMixed ds d') : d = d' := by
  obtain ⟨before, after, rfl, hbefore, hmixed⟩ := h
  obtain ⟨before', after', heq, hbefore', hmixed'⟩ := h'
  rcases List.append_eq_append_iff.mp heq with ⟨between, rfl, hrest⟩ | ⟨between, rfl, hrest⟩
  · cases between with
    | nil => exact (List.cons.inj hrest).1
    | cons b between =>
      obtain ⟨rfl, -⟩ := List.cons.inj hrest
      exact absurd hmixed (hbefore' d (by simp))
  · cases between with
    | nil => exact (List.cons.inj hrest).1.symm
    | cons b between =>
      obtain ⟨rfl, -⟩ := List.cons.inj hrest
      exact absurd hmixed' (hbefore d' (by simp))

/-- The check of enums refuses the first declaration that is mixed. -/
theorem checkEnums_cases (ds : List Declaration) :
    ((∃ d, FirstMixed ds d ∧
        forIn ds PUnit.unit (fun d _ => do
          let _ ← d.enumValueKind
          pure (ForInStep.yield PUnit.unit)) = (.error (.mixedEnum d.name) : Except Error PUnit))) ∨
      ((∀ d ∈ ds, ¬d.IsMixed) ∧
        forIn ds PUnit.unit (fun d _ => do
          let _ ← d.enumValueKind
          pure (ForInStep.yield PUnit.unit)) = (.ok PUnit.unit : Except Error PUnit)) := by
  induction ds with
  | nil => exact .inr ⟨by simp, rfl⟩
  | cons d rest ih =>
    rw [List.forIn_cons]
    rcases enumValueKind_cases d with ⟨hd, kind, hkind⟩ | ⟨hd, herror⟩
    · rw [hkind]
      rcases ih with ⟨d', ⟨before, after, rfl, hbefore, hmixed⟩, herror⟩ | ⟨hrest, hok⟩
      · exact .inl ⟨d', ⟨d :: before, after, rfl, List.forall_mem_cons.mpr ⟨hd, hbefore⟩, hmixed⟩, herror⟩
      · exact .inr ⟨List.forall_mem_cons.mpr ⟨hd, hrest⟩, hok⟩
    · exact .inl ⟨d, ⟨[], rest, rfl, by simp, hd⟩, by rw [herror]; rfl⟩

/-- Where equal keys are declared equally, every declaration that is reached is planned. -/
theorem mem_plannedDeclarations_of_reaches {services : List Service}
    (hsame : ∀ d ∈ allDeclarations services, ∀ d' ∈ allDeclarations services, d.key = d'.key → d = d')
    {d : Declaration} (hd : d ∈ allDeclarations services) (hreach : Reaches services d.key) :
    d ∈ plannedDeclarations services := by
  refine (mem_plannedDeclarations_iff services d).mpr ⟨hreach, ?_⟩
  obtain ⟨d', hfind⟩ := Option.isSome_iff_exists.mp (findDeclaration_isSome_iff.mpr ⟨d, hd, rfl⟩)
  rw [hfind, hsame d' (mem_of_findDeclaration hfind) d hd (key_eq_of_findDeclaration hfind)]

/-- There is a plan unless some planned declaration is mixed; the first of these is refused. -/
theorem plan_cases (layout : Layout) (services : List Service) :
    (∃ d, FirstMixed (plannedDeclarations services) d ∧
        plan layout services = .error (.mixedEnum d.name)) ∨
      ((∀ d ∈ plannedDeclarations services, ¬d.IsMixed) ∧ ∃ files, plan layout services = .ok files) := by
  unfold plan
  rcases checkEnums_cases (plannedDeclarations services) with ⟨d, hfirst, herror⟩ | ⟨hnone, hok⟩
  · exact .inl ⟨d, hfirst, by rw [herror]; rfl⟩
  · refine .inr ⟨hnone, ?_⟩
    rw [hok]
    by_cases hemits : layout.emitsDeclarations
    · exact ⟨_, by rw [if_pos hemits]; rfl⟩
    · exact ⟨_, by rw [if_neg hemits]; rfl⟩

/-- Some planned declaration is mixed if and only if an exposed method leads to a mixed enum, provided that
equal keys are declared equally. -/
theorem exists_firstMixed_iff {services : List Service}
    (hsame : ∀ d ∈ allDeclarations services, ∀ d' ∈ allDeclarations services, d.key = d'.key → d = d') :
    (∃ d, FirstMixed (plannedDeclarations services) d) ↔
      ∃ d ∈ allDeclarations services, Reaches services d.key ∧ d.IsMixed := by
  constructor
  · rintro ⟨d, before, after, heq, -, hmixed⟩
    have hd : d ∈ plannedDeclarations services := by simp [heq]
    obtain ⟨hreach, hfind⟩ := (mem_plannedDeclarations_iff services d).mp hd
    exact ⟨d, mem_of_findDeclaration hfind, hreach, hmixed⟩
  · rintro ⟨d, hd, hreach, hmixed⟩
    have hplanned : d ∈ plannedDeclarations services := mem_plannedDeclarations_of_reaches hsame hd hreach
    rcases checkEnums_cases (plannedDeclarations services) with ⟨d', hfirst, -⟩ | ⟨hnone, -⟩
    · exact ⟨d', hfirst⟩
    · exact absurd hmixed (hnone d hplanned)

/-! ## Rendering a plan -/

/-- Files own planned declarations only, whatever the paths of the clients are. -/
theorem mem_plannedDeclarations_of_owned {layout : Layout} {services : List Service} {file : FilePlan}
    (hfile : file ∈ ownedFiles layout services) {d : Declaration} (hd : d ∈ file.declarations) :
    d ∈ plannedDeclarations services := by
  have hclients : ((clientFiles layout services).flatMap FilePlan.declarations).Perm [] := by
    simp [clientFiles, List.flatMap_map]
  have hperm := foldl_placeDeclaration
    (fun placed files => (files.flatMap FilePlan.declarations).Perm placed)
    (fun placed files d hplaced => (declarations_placeDeclaration layout files d).trans (hplaced.append_right [d]))
    (plannedDeclarations services) hclients
  exact hperm.mem_iff.mp (List.mem_flatMap.mpr ⟨file, hfile, hd⟩)

/-- What a client reaches among the declarations of its own service is planned for the batch. -/
theorem mem_plannedDeclarations_of_reachable {services : List Service}
    (hsame : ∀ d ∈ allDeclarations services, ∀ d' ∈ allDeclarations services, d.key = d'.key → d = d')
    {s : Service} (hs : s ∈ services) {d : Declaration} (hd : d ∈ s.reachableDeclarations) :
    d ∈ plannedDeclarations services := by
  have hall : ∀ {key d}, findDeclaration s.declarations.reverse key = some d →
      d ∈ allDeclarations services ∧ d.key = key := by
    intro key d hfind
    have hmem := List.mem_reverse.mp (mem_of_findDeclaration hfind)
    exact ⟨List.mem_flatMap.mpr ⟨s, hs, hmem⟩, key_eq_of_findDeclaration hfind⟩
  obtain ⟨key, hkey, hfind⟩ := List.mem_filterMap.mp hd
  obtain ⟨hmem, rfl⟩ := hall hfind
  -- The batch declares all that the service declares, so that it reaches at least as much.
  have hreach : Reaches services d.key := by
    refine closeKeys_sound ?_ ?_ _ hkey
    · rintro k k' hk ⟨e, he, hk'⟩
      obtain ⟨hemem, rfl⟩ := hall he
      obtain ⟨r, hr, rfl⟩ := List.mem_map.mp hk'
      exact hk.mentioned hsame hemem hr
    · intro k hk
      simp only [List.nil_append, List.flatMap_cons, List.flatMap_nil, List.append_nil] at hk
      obtain ⟨r, hr, rfl⟩ := List.mem_map.mp hk
      exact .signature hs hr
  exact mem_plannedDeclarations_of_reaches hsame hmem hreach

/-- The files of a plan show planned declarations only, and a target without files for declarations has
clients only. -/
theorem shown_of_plan {services : List Service} {target : Target} {planned : List FilePlan}
    (hsame : ∀ d ∈ allDeclarations services, ∀ d' ∈ allDeclarations services, d.key = d'.key → d = d')
    (h : plan target.emitter.toLayout services = .ok planned) {file : FilePlan} (hfile : file ∈ planned) :
    (target.emitter.emitsDeclarations ∨ file.service.isSome) ∧
      ∀ d ∈ target.shownDeclarations file, d ∈ plannedDeclarations services := by
  by_cases hemits : target.emitter.emitsDeclarations
  · refine ⟨.inl hemits, ?_⟩
    have hshown : target.shownDeclarations file = file.declarations := by
      cases target <;> first | rfl | exact absurd hemits (by decide)
    obtain ⟨index, f, hf, rfl⟩ := (mem_plan_iff hemits h).mp hfile
    intro d hd
    rw [hshown] at hd
    exact mem_plannedDeclarations_of_owned (List.mem_of_getElem? hf) hd
  · -- Without files for declarations there are clients only, each with what its service leads to.
    obtain ⟨_, -, h⟩ := bind_eq_ok_iff.mp h
    rw [if_neg hemits] at h
    cases h
    obtain ⟨s, hs, rfl⟩ := List.mem_map.mp hfile
    refine ⟨.inr rfl, ?_⟩
    intro d hd
    have hreachable : d ∈ s.reachableDeclarations := by
      cases target <;> first | exact hd | exact absurd rfl hemits
    exact mem_plannedDeclarations_of_reachable hsame (List.mem_filter.mp hs).1 hreachable

/-- Whatever is planned can be rendered if no planned declaration is mixed. -/
theorem rendered_of_plan {services : List Service} {target : Target} {planned : List FilePlan}
    (hsame : ∀ d ∈ allDeclarations services, ∀ d' ∈ allDeclarations services, d.key = d'.key → d = d')
    (hnone : ∀ d ∈ plannedDeclarations services, ¬d.IsMixed)
    (h : plan target.emitter.toLayout services = .ok planned) (m : Metadata) :
    ∃ rendered, planned.mapM (renderFile target.emitter m) = .ok rendered := by
  apply mapM_eq_ok
  intro file hfile
  obtain ⟨hkind, hshown⟩ := shown_of_plan hsame h hfile
  exact renderFile_isOk target m hkind fun d hd => hnone d (hshown d hd)

/-- What is rendered has the path of its plan, and clients belong to their classes. -/
theorem renderFile_eq_ok {emitter : Emitter} {m : Metadata} {file : FilePlan} {f : OutputFile}
    (h : renderFile emitter m file = .ok f) :
    f.path = file.path ∧ f.ownerClass = file.service.map fun s => s.api.name := by
  refine ⟨path_renderFile h, ?_⟩
  unfold renderFile at h
  split at h
  · rename_i hservice
    obtain ⟨text, -, rfl⟩ := map_eq_ok_iff.mp h
    rw [hservice]
    rfl
  · rename_i hservice
    obtain ⟨text, -, rfl⟩ := map_eq_ok_iff.mp h
    rw [hservice]
    rfl

/-- What succeeds for a list has succeeded for its members, in order. -/
theorem forall₂_of_mapM_eq_ok {α β ε : Type} {f : α → Except ε β} {xs : List α} {ys : List β}
    (h : xs.mapM f = .ok ys) : List.Forall₂ (fun x y => f x = .ok y) xs ys := by
  induction xs generalizing ys with
  | nil =>
    cases h
    exact .nil
  | cons x rest ih =>
    rw [List.mapM_cons, bind_eq_ok_iff] at h
    obtain ⟨y, hy, h⟩ := h
    obtain ⟨ys', hrest, h⟩ := bind_eq_ok_iff.mp h
    cases h
    exact .cons hy (ih hrest)

/-! ## Paths that are used twice -/

theorem firstRepeated?_eq_none_iff {seen paths : List String} :
    firstRepeated? seen paths = none ↔ paths.Nodup ∧ ∀ path ∈ paths, path ∉ seen := by
  induction paths generalizing seen with
  | nil => simp [firstRepeated?]
  | cons path rest ih =>
    unfold firstRepeated?
    by_cases hseen : path ∈ seen
    · simp [hseen]
    · rw [if_neg hseen, ih, List.nodup_cons, List.forall_mem_cons]
      constructor
      · rintro ⟨hrest, hnew⟩
        have hpath : path ∉ rest := fun hmem => hnew path hmem List.mem_cons_self
        exact ⟨⟨hpath, hrest⟩, hseen, fun p hp hps => hnew p hp (List.mem_cons_of_mem path hps)⟩
      · rintro ⟨⟨hpath, hrest⟩, -, hnew⟩
        refine ⟨hrest, fun p hp hps => ?_⟩
        rcases List.mem_cons.mp hps with rfl | hps
        · exact hpath hp
        · exact hnew p hp hps

/-- A path that is repeated is there twice, or once and seen before. -/
theorem count_of_firstRepeated? {seen paths : List String} {path : String}
    (h : firstRepeated? seen paths = some path) :
    2 ≤ paths.count path ∨ (path ∈ seen ∧ path ∈ paths) := by
  induction paths generalizing seen with
  | nil => cases h
  | cons first rest ih =>
    unfold firstRepeated? at h
    split at h
    · rename_i hseen
      cases h
      exact .inr ⟨hseen, List.mem_cons_self⟩
    · rcases ih h with htwice | ⟨hseen, hmem⟩
      · exact .inl (le_trans htwice List.count_le_count_cons)
      · rcases List.mem_cons.mp hseen with rfl | hseen
        · have hone : 0 < rest.count path := List.count_pos_iff.mpr hmem
          rw [List.count_cons_self]
          exact .inl (by omega)
        · exact .inr ⟨hseen, List.mem_cons_of_mem first hmem⟩

/-- What is repeated first is not changed by what comes later. -/
theorem firstRepeated?_append {seen paths : List String} {path : String}
    (h : firstRepeated? seen paths = some path) (more : List String) :
    firstRepeated? seen (paths ++ more) = some path := by
  induction paths generalizing seen with
  | nil => cases h
  | cons first rest ih =>
    unfold firstRepeated? at h
    rw [List.cons_append]
    unfold firstRepeated?
    split
    · rename_i hseen
      rwa [if_pos hseen] at h
    · rename_i hseen
      rw [if_neg hseen] at h
      exact ih h

/-! ## Outcomes -/

/-- The paths that a target needs for its plan: those of clients and models, and that of the runtime. -/
def neededPaths (target : Target) (planned : List FilePlan) : List String :=
  planned.map FilePlan.path ++ [target.emitter.runtimePath]

/-- The files of a target: in increasing order of their paths, one for each file of the plan, the runtime,
once, and the companions of all these. Those of clients belong to their classes, the others to none. -/
structure Delivers (target : Target) (m : Metadata) (planned : List FilePlan) (files : List OutputFile) :
    Prop where
  increasing : files.Pairwise fun f g => f.path < g.path
  runtime_once : (files.map (·.path)).count target.emitter.runtimePath = 1
  complete : ∃ rendered companions,
    List.Forall₂ (fun file f => renderFile target.emitter m file = .ok f ∧ f.path = file.path ∧
      f.ownerClass = file.service.map fun s => s.api.name) planned rendered ∧
    companions = target.emitter.companions (renderedFiles target.emitter m rendered) ∧
    (∀ f ∈ companions, f.ownerClass = none) ∧
    files.Perm (rendered ++ ⟨target.emitter.runtimePath, target.emitter.runtimeText m, none⟩ :: companions)

/-- A target plans, renders what is planned, and compares the paths of all files. -/
theorem generateTarget_eq (services : List Service) (target : Target) (m : Metadata) :
    generateTarget services target m =
      (plan target.emitter.toLayout (disambiguate services)).bind fun planned =>
        (planned.mapM (renderFile target.emitter m)).bind fun rendered =>
          match firstRepeated? [] ((allFiles target.emitter m rendered).map (·.path)) with
          | some path => .error (.render target.label (.pathClaimedTwice path))
          | none => .ok ((allFiles target.emitter m rendered).mergeSort fun a b => decide (a.path ≤ b.path)) :=
  rfl

theorem paths_renderedFiles {target : Target} {m : Metadata} {planned : List FilePlan}
    {rendered : List OutputFile} (h : planned.mapM (renderFile target.emitter m) = .ok rendered) :
    (renderedFiles target.emitter m rendered).map (·.path) = neededPaths target planned := by
  unfold renderedFiles neededPaths
  rw [List.map_append, paths_mapM_renderFile h]
  rfl

theorem mergeSort_increasing {files : List OutputFile} (h : (files.map (·.path)).Nodup) :
    (files.mergeSort fun a b => decide (a.path ≤ b.path)).Pairwise fun f g => f.path < g.path := by
  have htrans : ∀ a b c : OutputFile, decide (a.path ≤ b.path) → decide (b.path ≤ c.path) →
      decide (a.path ≤ c.path) :=
    fun a b c hab hbc => decide_eq_true (le_trans (of_decide_eq_true hab) (of_decide_eq_true hbc))
  have htotal : ∀ a b : OutputFile, decide (a.path ≤ b.path) || decide (b.path ≤ a.path) := by
    intro a b
    simpa using le_total a.path b.path
  have hle := List.pairwise_mergeSort htrans htotal files
  have hne : (files.mergeSort fun a b => decide (a.path ≤ b.path)).Pairwise fun f g => f.path ≠ g.path :=
    List.pairwise_map.mp (((List.mergeSort_perm files _).map _).nodup_iff.mpr h)
  exact (hle.and hne).imp fun hpair => lt_of_le_of_ne (of_decide_eq_true hpair.1) hpair.2

/-- What is rendered is delivered if no path is needed twice. -/
theorem delivers_of_nodup {target : Target} {m : Metadata} {planned : List FilePlan}
    {rendered : List OutputFile} (h : planned.mapM (renderFile target.emitter m) = .ok rendered)
    (hnodup : (neededPaths target planned).Nodup) :
    Delivers target m planned
      ((allFiles target.emitter m rendered).mergeSort fun a b => decide (a.path ≤ b.path)) := by
  have hall : ((allFiles target.emitter m rendered).map (·.path)).Nodup := by
    refine (nodup_companions target _).mpr ?_
    rwa [paths_renderedFiles h]
  have hperm := List.mergeSort_perm (allFiles target.emitter m rendered) fun a b => decide (a.path ≤ b.path)
  refine ⟨mergeSort_increasing hall, ?_, rendered, _, ?_, rfl, ownerClass_companions target _, ?_⟩
  · rw [(hperm.map _).count_eq]
    refine List.count_eq_one_of_mem hall (List.mem_map.mpr ?_)
    exact ⟨_, List.mem_append_left _ (List.mem_append_right _ List.mem_cons_self), rfl⟩
  · exact (forall₂_of_mapM_eq_ok h).imp fun file f hf => ⟨hf, renderFile_eq_ok hf⟩
  · simpa [allFiles, renderedFiles] using hperm

/-- How a target ends that can render its plan: it refuses a path that is needed twice, or delivers. -/
theorem generateTarget_of_rendered {services : List Service} {target : Target} {m : Metadata}
    {planned : List FilePlan} {rendered : List OutputFile}
    (hplan : plan target.emitter.toLayout (disambiguate services) = .ok planned)
    (hrendered : planned.mapM (renderFile target.emitter m) = .ok rendered) :
    (¬(neededPaths target planned).Nodup ∧ ∃ path, 2 ≤ (neededPaths target planned).count path ∧
        generateTarget services target m = .error (.render target.label (.pathClaimedTwice path))) ∨
      ((neededPaths target planned).Nodup ∧
        ∃ files, generateTarget services target m = .ok files ∧ Delivers target m planned files) := by
  by_cases hnodup : (neededPaths target planned).Nodup
  · refine .inr ⟨hnodup, _, ?_, delivers_of_nodup hrendered hnodup⟩
    refine generateTarget_eq_ok_iff.mpr ⟨planned, rendered, hplan, hrendered, ?_, rfl⟩
    refine firstRepeated?_eq_none_iff.mpr ⟨?_, by simp⟩
    refine (nodup_companions target _).mpr ?_
    rwa [paths_renderedFiles hrendered]
  · -- The path that is refused is one of those needed, since companions have paths of their own.
    obtain ⟨path, hpath⟩ : ∃ path, firstRepeated? [] (neededPaths target planned) = some path := by
      rw [← Option.ne_none_iff_exists']
      exact fun hnone => hnodup (firstRepeated?_eq_none_iff.mp hnone).1
    have htwice : 2 ≤ (neededPaths target planned).count path :=
      (count_of_firstRepeated? hpath).resolve_right (by simp)
    refine .inl ⟨hnodup, path, htwice, ?_⟩
    have hall : firstRepeated? [] ((allFiles target.emitter m rendered).map (·.path)) = some path := by
      unfold allFiles
      rw [List.map_append, paths_renderedFiles hrendered]
      exact firstRepeated?_append hpath _
    rw [generateTarget_eq, hplan, Except.bind, hrendered, Except.bind, hall]

/-- How a target ends where equal keys are declared equally. It names the first mixed enum in the order in
which declarations are discovered, if an exposed method leads to one; otherwise it refuses a path if two of
the files that it needs have the same; otherwise it delivers. -/
theorem generateTarget_outcome {services : List Service}
    (hsame : ∀ d ∈ allDeclarations (disambiguate services), ∀ d' ∈ allDeclarations (disambiguate services),
      d.key = d'.key → d = d')
    (target : Target) (m : Metadata) :
    (∀ name, generateTarget services target m = .error (.mixedEnum name) ↔
        ∃ d, FirstMixed (plannedDeclarations (disambiguate services)) d ∧ d.name = name) ∧
      ((∃ d, FirstMixed (plannedDeclarations (disambiguate services)) d) ↔
        ∃ d ∈ allDeclarations (disambiguate services), Reaches (disambiguate services) d.key ∧ d.IsMixed) ∧
      ((¬∃ d, FirstMixed (plannedDeclarations (disambiguate services)) d) →
        ∃ planned, plan target.emitter.toLayout (disambiguate services) = .ok planned ∧
          ((∃ language fault, generateTarget services target m = .error (.render language fault)) ↔
            ¬(neededPaths target planned).Nodup) ∧
          (∀ e, generateTarget services target m = .error e →
            ∃ path, 2 ≤ (neededPaths target planned).count path ∧
              e = .render target.label (.pathClaimedTwice path)) ∧
          ((neededPaths target planned).Nodup →
            ∃ files, generateTarget services target m = .ok files ∧ Delivers target m planned files)) := by
  rcases plan_cases target.emitter.toLayout (disambiguate services) with
    ⟨d, hfirst, hplan⟩ | ⟨hnone, planned, hplan⟩
  · -- There is a mixed enum, and the target names the first one.
    have herror : generateTarget services target m = .error (.mixedEnum d.name) := by
      rw [generateTarget_eq, hplan, Except.bind]
    refine ⟨fun name => ?_, exists_firstMixed_iff hsame, fun hno => absurd ⟨d, hfirst⟩ hno⟩
    rw [herror]
    constructor
    · rintro h
      cases h
      exact ⟨d, hfirst, rfl⟩
    · rintro ⟨d', hfirst', rfl⟩
      rw [hfirst.unique hfirst']
  · -- There is none, and all that is left to compare are paths.
    have hno : ¬∃ d, FirstMixed (plannedDeclarations (disambiguate services)) d := by
      rintro ⟨d, hfirst⟩
      exact hnone d hfirst.mem hfirst.isMixed
    obtain ⟨rendered, hrendered⟩ := rendered_of_plan hsame hnone hplan m
    have hother : ∀ name, generateTarget services target m ≠ .error (.mixedEnum name) := by
      intro name h
      rcases generateTarget_of_rendered hplan hrendered with ⟨-, path, -, hrun⟩ | ⟨-, files, hrun, -⟩ <;>
      · rw [hrun] at h
        cases h
    refine ⟨fun name => ⟨fun h => absurd h (hother name), fun ⟨d, hfirst, _⟩ => absurd ⟨d, hfirst⟩ hno⟩,
      exists_firstMixed_iff hsame, fun _ => ⟨planned, hplan, ?_⟩⟩
    rcases generateTarget_of_rendered hplan hrendered with
      ⟨htwice, path, hcount, hrun⟩ | ⟨hnodup, files, hrun, hall⟩
    · rw [hrun]
      refine ⟨⟨fun _ => htwice, fun _ => ⟨_, _, rfl⟩⟩, ?_, fun hnodup => absurd hnodup htwice⟩
      rintro e ⟨⟩
      exact ⟨path, hcount, rfl⟩
    · rw [hrun]
      refine ⟨⟨?_, fun htwice => absurd hnodup htwice⟩, ?_, fun _ => ⟨files, rfl, hall⟩⟩
      · rintro ⟨language, fault, ⟨⟩⟩
      · rintro e ⟨⟩

/-! ## A mixed enum -/

/-- An enum that has a number and a string as its values. -/
def mixedEnum : Declaration :=
  ⟨"Mode", "src/x", .enumeration [⟨"Off", .number "0"⟩, ⟨"On", .string "on"⟩], none⟩

/-- A service that returns the enum. -/
def mixedService : Service :=
  { language := .typeScript
    modulePath := "src/x"
    api :=
      { name := "S"
        methods := [⟨"f", [], .named ⟨"Mode", "src/x", .enumeration⟩, .rpc, none⟩]
        docs := none }
    declarations := [mixedEnum] }

theorem disambiguate_mixedService : disambiguate [mixedService] = [mixedService] :=
  disambiguate_eq_self (not_clashes_singleton ⟨"Mode", "src/x"⟩)

/-- All targets refuse the enum. -/
theorem generateTarget_outcome_mixed :
    (∀ d ∈ allDeclarations (disambiguate [mixedService]),
        ∀ d' ∈ allDeclarations (disambiguate [mixedService]), d.key = d'.key → d = d') ∧
      ∀ target m, generateTarget [mixedService] target m = .error (.mixedEnum "Mode") := by
  have hall : allDeclarations (disambiguate [mixedService]) = [mixedEnum] := by
    rw [disambiguate_mixedService]
    rfl
  have hsame : ∀ d ∈ allDeclarations (disambiguate [mixedService]),
      ∀ d' ∈ allDeclarations (disambiguate [mixedService]), d.key = d'.key → d = d' := by
    rw [hall]
    simp
  refine ⟨hsame, fun target m => ?_⟩
  obtain ⟨hmixed, hreached, -⟩ := generateTarget_outcome hsame target m
  have hreach : Reaches (disambiguate [mixedService]) mixedEnum.key := by
    rw [disambiguate_mixedService]
    have hr : ⟨"Mode", "src/x", .enumeration⟩ ∈ mixedService.exposedReferences := by decide_cbv
    exact .signature List.mem_cons_self hr
  have his : mixedEnum.IsMixed :=
    ⟨_, rfl, .inr (.inr ⟨⟨⟨"On", .string "on"⟩, by simp, "on", rfl⟩, ⟨⟨"Off", .number "0"⟩, by simp, "0", rfl⟩⟩)⟩
  -- There is but one declaration, so that it is the first mixed one.
  obtain ⟨d, hfirst⟩ := hreached.mpr ⟨mixedEnum, by rw [hall]; exact List.mem_cons_self, hreach, his⟩
  refine (hmixed "Mode").mpr ⟨d, hfirst, ?_⟩
  have hd : d ∈ allDeclarations (disambiguate [mixedService]) :=
    mem_of_findDeclaration ((mem_plannedDeclarations_iff _ d).mp hfirst.mem).2
  rw [hall, List.mem_singleton] at hd
  rw [hd]
  rfl

end ServiceStubs
