import ServiceStubs.Build
import ServiceStubs.Generate
import ServiceStubs.Proofs.Files.Confinement
import ServiceStubs.Proofs.Plan.DistinctNames
import ServiceStubs.Proofs.Plan.Imports
import ServiceStubs.Proofs.Target.OutputPaths

/-!
# Where the files of a target are

The files of a target have the paths that were planned, and those of the runtime and the companions. All
of them stay below the output directory, unless a module whose file mirrors its identity has a directory
without a name.

* `generateTarget_eq_ok_iff` says what a successful answer is made of;
* `plan_safe_iff` says when the planned files are below the output directory;
* `generateTarget_safe_iff` says when all paths are safe, and that safe files stay where they belong.
-/

namespace ServiceStubs

/-! ## What an answer is made of -/

/-- The files of a target without companions: what is rendered, and the runtime. -/
def renderedFiles (emitter : Emitter) (m : Metadata) (rendered : List OutputFile) : List OutputFile :=
  rendered ++ [⟨emitter.runtimePath, emitter.runtimeText m, none⟩]

/-- All files of a target, the companions last. -/
def allFiles (emitter : Emitter) (m : Metadata) (rendered : List OutputFile) : List OutputFile :=
  renderedFiles emitter m rendered ++ emitter.companions (renderedFiles emitter m rendered)

theorem path_renderFile {emitter : Emitter} {m : Metadata} {file : FilePlan} {f : OutputFile}
    (h : renderFile emitter m file = .ok f) : f.path = file.path := by
  unfold renderFile at h
  split at h
  · obtain ⟨text, -, rfl⟩ := map_eq_ok_iff.mp h
    rfl
  · obtain ⟨text, -, rfl⟩ := map_eq_ok_iff.mp h
    rfl

/-- Rendered files have the paths of the planned ones, in their order. -/
theorem paths_mapM_renderFile {emitter : Emitter} {m : Metadata} {planned : List FilePlan}
    {rendered : List OutputFile} (h : planned.mapM (renderFile emitter m) = .ok rendered) :
    rendered.map (·.path) = planned.map FilePlan.path := by
  induction planned generalizing rendered with
  | nil =>
    cases h
    rfl
  | cons file rest ih =>
    rw [List.mapM_cons, bind_eq_ok_iff] at h
    obtain ⟨f, hfile, h⟩ := h
    obtain ⟨fs, hrest, h⟩ := bind_eq_ok_iff.mp h
    cases h
    rw [List.map_cons, List.map_cons, path_renderFile hfile, ih hrest]

/-- A successful answer is made of what is rendered, the runtime and the companions, in order of paths. No
two of them have the same path. -/
theorem generateTarget_eq_ok_iff {services : List Service} {target : Target} {m : Metadata}
    {files : List OutputFile} :
    generateTarget services target m = .ok files ↔
      ∃ planned rendered, plan target.emitter.toLayout (disambiguate services) = .ok planned ∧
        planned.mapM (renderFile target.emitter m) = .ok rendered ∧
        firstRepeated? [] ((allFiles target.emitter m rendered).map (·.path)) = none ∧
        files = (allFiles target.emitter m rendered).mergeSort fun a b => decide (a.path ≤ b.path) := by
  constructor
  · intro h
    obtain ⟨planned, hplan, h⟩ := bind_eq_ok_iff.mp h
    obtain ⟨rendered, hrendered, h⟩ := bind_eq_ok_iff.mp h
    dsimp only at h
    split at h
    · cases h
    · rename_i hrepeated
      cases h
      exact ⟨planned, rendered, hplan, hrendered, hrepeated, rfl⟩
  · rintro ⟨planned, rendered, hplan, hrendered, hrepeated, rfl⟩
    refine bind_eq_ok_iff.mpr ⟨planned, hplan, bind_eq_ok_iff.mpr ⟨rendered, hrendered, ?_⟩⟩
    unfold allFiles renderedFiles at hrepeated ⊢
    dsimp only
    rw [hrepeated]
    rfl

/-- All files of a target have safe paths if those that are planned have. -/
theorem safe_iff_of_planned {services : List Service} {target : Target} {m : Metadata}
    {files : List OutputFile} (h : generateTarget services target m = .ok files) :
    ∃ planned, plan target.emitter.toLayout (disambiguate services) = .ok planned ∧
      ((∀ f ∈ files, SafePath f.path) ↔ ∀ f ∈ planned, SafePath f.path) := by
  obtain ⟨planned, rendered, hplan, hrendered, -, rfl⟩ := generateTarget_eq_ok_iff.mp h
  refine ⟨planned, hplan, ?_⟩
  have hpaths := paths_mapM_renderFile hrendered
  have hforall : (∀ f ∈ rendered, SafePath f.path) ↔ ∀ f ∈ planned, SafePath f.path := by
    rw [← List.forall_mem_map (P := SafePath), hpaths, List.forall_mem_map]
  rw [← hforall]
  simp only [List.mem_mergeSort, allFiles, List.mem_append]
  constructor
  · intro hall f hf
    exact hall f (.inl (List.mem_append_left _ hf))
  · -- The runtime is always safe, and companions stand beside files that are.
    intro hall
    have hbase : ∀ f ∈ renderedFiles target.emitter m rendered, SafePath f.path := by
      intro f hf
      rcases List.mem_append.mp hf with hf | hf
      · exact hall f hf
      · rw [List.mem_singleton] at hf
        subst hf
        exact runtimePath_safe target
    rintro f (hf | hf)
    · exact hbase f hf
    · exact companions_safe target hbase f hf

/-! ## Where the planned files are -/

theorem exposedMethods_renamed (declared : List DeclKey) (s : Service) :
    (s.renamed declared).api.exposedMethods = [] ↔ s.api.exposedMethods = [] := by
  unfold Service.renamed ServiceClass.exposedMethods
  simp [Method.mapReferences]

/-- New names change nothing about where services come from. -/
theorem apart_disambiguate (services : List Service) (modulePath : String) :
    Apart (disambiguate services) modulePath ↔ Apart services modulePath := by
  unfold Apart disambiguate
  rw [List.forall_mem_map]
  simp only [ne_eq, exposedMethods_renamed]
  rfl

/-- The module gets a file of its own: it declares something that some client needs, and has no client. -/
def HasModelFile (services : List Service) (modulePath : String) : Prop :=
  Apart services modulePath ∧
    ∃ d ∈ plannedDeclarations (disambiguate services), d.modulePath = modulePath

/-- The file for a module is safe unless it mirrors a directory without a name. -/
theorem plan_safe_iff {services : List Service} {target : Target} {planned : List FilePlan}
    (h : plan target.emitter.toLayout (disambiguate services) = .ok planned) :
    (∀ f ∈ planned, SafePath f.path) ↔
      (target.mirrorsModules →
        ∀ modulePath, HasModelFile services modulePath → NamedDirectories modulePath) := by
  have hclients : ∀ path ∈ clientPaths target.emitter.toLayout (disambiguate services), SafePath path := by
    intro path hpath
    obtain ⟨s, -, rfl⟩ := List.mem_map.mp hpath
    exact clientPath_safe target s.api.name
  by_cases hemits : target.emitter.emitsDeclarations
  · have hlocated := ownedFiles_located target.emitter.toLayout (disambiguate services)
    rw [← List.forall_mem_map (P := SafePath), map_plan hemits h fun _ _ => rfl, List.forall_mem_map]
    constructor
    · rintro hall hmirrors modulePath ⟨hapart, d, hd, rfl⟩
      obtain ⟨f, hf, hpath⟩ := hlocated.found d hd ((apart_disambiguate services _).mpr hapart)
      have hsafe : SafePath (target.emitter.modelPath d.modulePath) := hpath ▸ hall f hf
      exact (modelPath_safe_iff target hemits d.modulePath).mp hsafe hmirrors
    · intro hnamed f hf
      rcases hlocated.known f hf with hclient | ⟨d, hd, hapart, hpath⟩
      · exact hclients f.path hclient
      · rw [hpath]
        refine (modelPath_safe_iff target hemits d.modulePath).mpr fun hmirrors => ?_
        exact hnamed hmirrors d.modulePath ⟨(apart_disambiguate services _).mp hapart, d, hd, rfl⟩
  · -- Without files for declarations there are only clients.
    have hmirrors : ¬target.mirrorsModules := by
      cases target <;> first | exact absurd rfl hemits | decide
    have hall : ∀ f ∈ planned, SafePath f.path := by
      obtain ⟨_, -, h⟩ := bind_eq_ok_iff.mp h
      rw [if_neg hemits] at h
      cases h
      intro f hf
      obtain ⟨s, hs, rfl⟩ := List.mem_map.mp hf
      exact hclients _ (List.mem_map.mpr ⟨s, hs, rfl⟩)
    exact ⟨fun _ hyes => absurd hyes hmirrors, fun _ => hall⟩

/-! ## Safe files stay where they belong -/

/-- The directory in which files are collected has a name of its own. -/
theorem staging_endsInName {directory name : String} (h : Files.fileName? directory = some name) :
    EndsInName (Text.splitOn '/' (Files.sibling directory ("." ++ name ++ ".rpcgen-staging"))) := by
  apply Files.sibling_endsInName
  · simp only [String.toList_append, List.mem_append, not_or]
    exact ⟨⟨by decide, Files.slash_not_mem_fileName? h⟩, by decide⟩
  · apply isName_of_length
    simp only [String.toList_append, List.length_append]
    have hlength : ".rpcgen-staging".toList.length = 15 := by decide
    omega

/-- All paths of a target are safe unless a module that needs a file of its own has a directory without a
name. If they are safe, nothing is written outside of the staging directory. -/
theorem generateTarget_safe_iff {services : List Service} {target : Target} {m : Metadata}
    {files : List OutputFile} (h : generateTarget services target m = .ok files) :
    ((∀ f ∈ files, SafePath f.path) ↔
        (target.mirrorsModules →
          ∀ modulePath, HasModelFile services modulePath → NamedDirectories modulePath)) ∧
      ((∀ f ∈ files, SafePath f.path) → ∀ directory name, Files.fileName? directory = some name →
        StayInside (Files.sibling directory ("." ++ name ++ ".rpcgen-staging")) files) := by
  obtain ⟨planned, hplan, hiff⟩ := safe_iff_of_planned h
  refine ⟨hiff.trans (plan_safe_iff hplan), ?_⟩
  intro hsafe directory name hname
  exact stayInside_of_safe (staging_endsInName hname) hsafe

/-! ## A module beside its service -/

/-- A service whose method takes a record of another module in the same directory. -/
def serviceIn (directory : String) : Service :=
  { language := .typeScript
    modulePath := directory ++ "/x"
    api :=
      { name := "S"
        methods :=
          [⟨"f", [⟨"m", .named ⟨"M", directory ++ "/models", .record⟩, false, none⟩], .void, .rpc, none⟩]
        docs := none }
    declarations := [⟨"M", directory ++ "/models", .record [⟨"a", false, .string⟩], none⟩] }

/-- There are files if what is planned can be rendered, and no two files have the same path. -/
theorem generateTarget_isOk {services : List Service} {target : Target} {m : Metadata}
    (h : ((plan target.emitter.toLayout (disambiguate services)).bind fun planned =>
        planned.mapM (renderFile target.emitter m)).toOption.map
      (fun rendered => firstRepeated? [] ((allFiles target.emitter m rendered).map (·.path))) = some none) :
    ∃ files, generateTarget services target m = .ok files := by
  obtain ⟨rendered, hrun, hpaths⟩ := toOption_map_eq_some_iff.mp h
  obtain ⟨planned, hplan, hrendered⟩ := bind_eq_ok_iff.mp hrun
  exact ⟨_, generateTarget_eq_ok_iff.mpr ⟨planned, rendered, hplan, hrendered, hpaths, rfl⟩⟩

theorem disambiguate_serviceIn (directory : String) :
    disambiguate [serviceIn directory] = [serviceIn directory] :=
  disambiguate_eq_self (not_clashes_singleton ⟨"M", directory ++ "/models"⟩)

/-- The record is all that clients need. -/
theorem plannedDeclarations_serviceIn (directory : String) :
    plannedDeclarations (disambiguate [serviceIn directory]) = (serviceIn directory).declarations := by
  rw [disambiguate_serviceIn]
  apply plannedDeclarations_leaf
  · simp [serviceIn, Service.exposedReferences, ServiceClass.exposedMethods, Exposure.isCallable,
      Method.references, DataType.references, TypeRef.key, Declaration.key]
  · simp [serviceIn, findDeclaration]
  · simp [Declaration.references, DataType.references]

/-- The record is beside the service, below the output directory. -/
theorem generateTarget_safe_iff_src :
    ∃ files, generateTarget [serviceIn "src"] .typeScript .standard = .ok files ∧
      (∀ f ∈ files, SafePath f.path) ∧ StayInside "sdk/.ts.rpcgen-staging" files := by
  obtain ⟨files, h⟩ : ∃ files, generateTarget [serviceIn "src"] .typeScript .standard = .ok files := by
    apply generateTarget_isOk
    unfold plan ownedFiles
    rw [plannedDeclarations_serviceIn]
    decide +kernel
  obtain ⟨hiff, hstay⟩ := generateTarget_safe_iff h
  have hsafe : ∀ f ∈ files, SafePath f.path := by
    rw [hiff]
    rintro - modulePath ⟨-, d, hd, rfl⟩
    rw [plannedDeclarations_serviceIn] at hd
    have heq : d = ⟨"M", "src/models", .record [⟨"a", false, .string⟩], none⟩ := List.mem_singleton.mp hd
    subst heq
    unfold NamedDirectories
    decide
  exact ⟨files, h, hsafe, hstay hsafe "sdk/ts" "ts" (by decide +kernel)⟩

/-- The path that is requested is absolute, and so is that of the module that it imports. -/
def absoluteRequest : BuildRequest :=
  { path := "/abs/x.ts"
    text := "import { M } from \"./models\";\nexport class S { f(m: M): void {} }"
    className := none }

/-- The file in which the record is declared. -/
def absoluteLibrary : Source.Library :=
  .ofFiles [("/abs/models.ts", "export interface M { a: string }")]

/-- All texts in a service that has the shape of `serviceIn`. -/
def textsLikeServiceIn? (s : Service) : Option (List String × TypeRef) :=
  match s with
  | ⟨.typeScript, path, ⟨name, [⟨method, [⟨param, .named r, false, none⟩], .void, .rpc, none⟩], none⟩,
      [⟨record, module, .record [⟨field, false, .string⟩], none⟩]⟩ =>
    some ([path, name, method, param, record, module, field], r)
  | _ => none

/-- What is built for an absolute path. -/
theorem buildService_absolute :
    buildService absoluteLibrary (fun _ => ⟨.rpc, []⟩) absoluteRequest = .ok (serviceIn "/abs") := by
  have hrun : (buildService absoluteLibrary (fun _ => ⟨.rpc, []⟩) absoluteRequest).toOption.map
        textsLikeServiceIn? =
      some (some (["/abs/x", "S", "f", "m", "M", "/abs/models", "a"], ⟨"M", "/abs/models", .record⟩)) := by
    decide +kernel
  obtain ⟨s, hs, htexts⟩ := toOption_map_eq_some_iff.mp hrun
  rw [hs]
  unfold textsLikeServiceIn? at htexts
  split at htexts
  · cases htexts
    rfl
  · cases htexts

/-- The file for the module that is imported has an absolute path, which is followed from any directory to
the source of the module. -/
theorem generateTarget_not_safe :
    ∃ s files, buildService absoluteLibrary (fun _ => ⟨.rpc, []⟩) absoluteRequest = .ok s ∧
      generateTarget [s] .typeScript .standard = .ok files ∧
      ∃ f ∈ files, ¬SafePath f.path ∧ ∀ directory, Files.join directory f.path = "/abs/models.ts" := by
  -- The service that is built is `serviceIn "/abs"`, for which the target has been computed in general.
  obtain ⟨files, h⟩ : ∃ files, generateTarget [serviceIn "/abs"] .typeScript .standard = .ok files := by
    apply generateTarget_isOk
    unfold plan ownedFiles
    rw [plannedDeclarations_serviceIn]
    decide +kernel
  obtain ⟨planned, rendered, hplan, hrendered, -, hfiles⟩ := generateTarget_eq_ok_iff.mp h
  have hpaths : rendered.map (·.path) = ["s.sdk.ts", "/abs/models.ts"] := by
    rw [paths_mapM_renderFile hrendered, map_plan rfl hplan fun _ _ => rfl]
    unfold ownedFiles
    rw [plannedDeclarations_serviceIn]
    decide +kernel
  obtain ⟨f, hf, hpath⟩ : ∃ f ∈ rendered, f.path = "/abs/models.ts" := by
    rw [← List.mem_map, hpaths]
    simp
  refine ⟨_, files, buildService_absolute, h, f, ?_, ?_, ?_⟩
  · rw [hfiles, List.mem_mergeSort]
    exact List.mem_append_left _ (List.mem_append_left _ hf)
  · rw [hpath]
    exact fun hsafe => hsafe.relative (by decide)
  · intro directory
    have habsolute : Files.isAbsolute "/abs/models.ts" := by decide
    rw [hpath, Files.join, if_pos (.inl habsolute)]

end ServiceStubs
