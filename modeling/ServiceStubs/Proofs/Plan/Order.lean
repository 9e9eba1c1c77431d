import ServiceStubs.Proofs.Plan.ImportGraph
import ServiceStubs.Proofs.Target.Outcome

/-!
# Plans of a batch in another order

The order of the services decides in which order declarations are found, in which order files are planned, and
which names a file imports first. It decides nothing else, as long as no source and no path belongs to two
clients and equal keys are declared equally.

* `find?_perm` is why: what is unique is found in any order;
* `reaches_perm`, `plannedDeclarations_perm` and `homePath_perm` say that the same declarations are planned, and
  where they belong;
* `FilePlan.SameContents` compares files up to the order of what is in them;
* `plan_perm` compares the plans of a batch in two orders.
-/

namespace ServiceStubs

variable {layout : Layout} {services services' : List Service} {files files' : List FilePlan}

/-! ## Finding the same -/

/-- Where no two members of a list pass a test, the one that does is found in any order. -/
theorem find?_perm {α : Type} {test : α → Bool} {xs ys : List α} (hperm : xs.Perm ys)
    (hunique : ∀ a ∈ xs, ∀ b ∈ xs, test a → test b → a = b) : xs.find? test = ys.find? test := by
  rcases hxs : xs.find? test with _ | a
  · rw [List.find?_eq_none] at hxs
    symm
    rw [List.find?_eq_none]
    intro b hb
    exact hxs b (hperm.mem_iff.mpr hb)
  · have ha : a ∈ xs := List.mem_of_find?_eq_some hxs
    have htest : test a := List.find?_some hxs
    rcases hys : ys.find? test with _ | b
    · rw [List.find?_eq_none] at hys
      exact absurd htest (hys a (hperm.mem_iff.mp ha))
    · have hb : b ∈ xs := hperm.mem_iff.mpr (List.mem_of_find?_eq_some hys)
      rw [hunique a ha b hb htest (List.find?_some hys)]

theorem allDeclarations_perm (hperm : services.Perm services') :
    (allDeclarations services).Perm (allDeclarations services') :=
  hperm.flatMap_right _

theorem declared_perm (hperm : services.Perm services') (key : DeclKey) :
    Declared services key ↔ Declared services' key := by
  unfold Declared
  simp only [hperm.mem_iff]

/-- The sources of the clients. -/
def clientSources (services : List Service) : List String :=
  (services.filter fun s => !s.api.exposedMethods.isEmpty).map Service.modulePath

theorem clientPaths_perm (hperm : services.Perm services') :
    (clientPaths layout services).Perm (clientPaths layout services') :=
  (hperm.filter _).map _

/-- A module has the same home in any order. -/
theorem homePath_perm (hsources : (clientSources services).Nodup) (hperm : services.Perm services')
    (modulePath : String) : homePath layout services modulePath = homePath layout services' modulePath := by
  unfold homePath
  rw [find?_perm hperm]
  intro s hs s' hs' htest htest'
  simp only [Bool.and_eq_true, beq_iff_eq] at htest htest'
  have hmem : s ∈ services.filter fun s => !s.api.exposedMethods.isEmpty := List.mem_filter.mpr ⟨hs, htest.1⟩
  have hmem' : s' ∈ services.filter fun s => !s.api.exposedMethods.isEmpty :=
    List.mem_filter.mpr ⟨hs', htest'.1⟩
  exact List.inj_on_of_nodup_map hsources hmem hmem' (htest.2.trans htest'.2.symm)

section

variable (hsame : ∀ d ∈ allDeclarations services, ∀ d' ∈ allDeclarations services, d.key = d'.key → d = d')
  (hperm : services.Perm services')

include hsame hperm

/-- The same declaration counts for a key. -/
theorem findDeclaration_perm (key : DeclKey) :
    findDeclaration (allDeclarations services) key = findDeclaration (allDeclarations services') key := by
  refine find?_perm (allDeclarations_perm hperm) ?_
  intro d hd d' hd' htest htest'
  exact hsame d hd d' hd' ((of_decide_eq_true htest).trans (of_decide_eq_true htest').symm)

/-- Chains of references lead to the same keys. -/
theorem reaches_perm (key : DeclKey) : Reaches services key ↔ Reaches services' key := by
  constructor
  · intro h
    induction h with
    | signature hs hr => exact .signature (hperm.mem_iff.mp hs) hr
    | body _ hstep ih =>
      obtain ⟨d, hfind, hmem⟩ := hstep
      rw [findDeclaration_perm hsame hperm] at hfind
      exact .body ih ⟨d, hfind, hmem⟩
  · intro h
    induction h with
    | signature hs hr => exact .signature (hperm.mem_iff.mpr hs) hr
    | body _ hstep ih =>
      obtain ⟨d, hfind, hmem⟩ := hstep
      rw [← findDeclaration_perm hsame hperm] at hfind
      exact .body ih ⟨d, hfind, hmem⟩

theorem plannedDeclarations_perm : (plannedDeclarations services).Perm (plannedDeclarations services') := by
  rw [List.perm_ext_iff_of_nodup (List.Nodup.of_map _ (nodup_plannedDeclarations services))
    (List.Nodup.of_map _ (nodup_plannedDeclarations services'))]
  intro d
  rw [mem_plannedDeclarations_iff, mem_plannedDeclarations_iff, reaches_perm hsame hperm,
    findDeclaration_perm hsame hperm]

/-- If there is a plan for a batch, there is one for the batch in another order. -/
theorem plan_isOk_perm (h : plan layout services = .ok files) : ∃ files', plan layout services' = .ok files' := by
  rcases plan_cases layout services' with ⟨d, hfirst, -⟩ | ⟨-, hok⟩
  · have hd : d ∈ plannedDeclarations services :=
      (plannedDeclarations_perm hsame hperm).mem_iff.mpr hfirst.mem
    rcases plan_cases layout services with ⟨d', -, herror⟩ | ⟨hnone, -⟩
    · rw [h] at herror
      cases herror
    · exact absurd hfirst.isMixed (hnone d hd)
  · exact hok

end

/-! ## Files with the same contents -/

/-- Two files are for the same service and hold the same, whatever the order: the same declarations, and imports
of the same names from the same files. -/
structure FilePlan.SameContents (file file' : FilePlan) : Prop where
  service : file.service = file'.service
  declarations : ∀ d, d ∈ file.declarations ↔ d ∈ file'.declarations
  importedFiles : ∀ path, (∃ i ∈ file.imports, i.file = path) ↔ ∃ i ∈ file'.imports, i.file = path
  importedNames : ∀ path name, file.ImportsName path name ↔ file'.ImportsName path name

/-- The files of a plan are at the paths of clients and at the homes of planned declarations. -/
theorem mem_paths_plan_iff (hemits : layout.emitsDeclarations) (hpaths : (clientPaths layout services).Nodup)
    (h : plan layout services = .ok files) (path : String) :
    path ∈ files.map FilePlan.path ↔ path ∈ clientPaths layout services ∨
      ∃ d ∈ plannedDeclarations services, homePath layout services d.modulePath = path := by
  have hathome := plan_atHome hemits h
  constructor
  · intro hpath
    rw [map_plan hemits h fun _ _ => rfl] at hpath
    obtain ⟨f, hf, rfl⟩ := List.mem_map.mp hpath
    have hlocated := ownedFiles_located layout services
    rcases hlocated.known f hf with hclient | ⟨d, hd, hapart, heq⟩
    · exact .inl hclient
    · -- No client is for the module, so that its home is the file that is named after it.
      refine .inr ⟨d, hd, ?_⟩
      have hnone : (services.find? fun s => !s.api.exposedMethods.isEmpty && s.modulePath == d.modulePath) = none := by
        rw [List.find?_eq_none]
        intro s hs htest
        simp only [Bool.and_eq_true, Bool.not_eq_true', List.isEmpty_eq_false_iff, beq_iff_eq] at htest
        exact hapart s hs htest.1 htest.2
      unfold homePath
      rw [hnone, heq]
  · rintro (hclient | ⟨d, hd, rfl⟩)
    · obtain ⟨s, hs, rfl⟩ := List.mem_map.mp hclient
      obtain ⟨hs, hexposed⟩ := List.mem_filter.mp hs
      obtain ⟨f, hf, hpath, -⟩ :=
        (mem_clients_plan_iff hemits h _ s).mpr ⟨hs, by simpa using hexposed, rfl⟩
      exact List.mem_map.mpr ⟨f, hf, hpath⟩
    · obtain ⟨f, hf, hmem⟩ := (mem_declarations_plan_iff hemits hpaths h d).mpr hd
      exact List.mem_map.mpr ⟨f, hf, hathome.home f hf d hmem⟩

/-- Files at one path in the plans of a batch in two orders have the same contents. -/
theorem sameContents_perm (hemits : layout.emitsDeclarations) (hsources : (clientSources services).Nodup)
    (hpaths : (clientPaths layout services).Nodup)
    (hsame : ∀ d ∈ allDeclarations services, ∀ d' ∈ allDeclarations services, d.key = d'.key → d = d')
    (hperm : services.Perm services') (h : plan layout services = .ok files)
    (h' : plan layout services' = .ok files') {file file' : FilePlan} (hfile : file ∈ files)
    (hfile' : file' ∈ files') (hpath : file.path = file'.path) : file.SameContents file' := by
  have hpaths' : (clientPaths layout services').Nodup := (clientPaths_perm hperm).nodup_iff.mp hpaths
  have hplanned := plannedDeclarations_perm hsame hperm
  have hreferences : ∀ r, r ∈ file.references ↔ r ∈ file'.references := by
    intro r
    rw [mem_references_iff hemits hpaths h hfile, mem_references_iff hemits hpaths' h' hfile', hpath]
    simp only [homePath_perm hsources hperm, hplanned.mem_iff, hperm.mem_iff]
  have hnames : ∀ path name, file.ImportsName path name ↔ file'.ImportsName path name := by
    intro path name
    rw [importsName_iff hemits hpaths h hfile, importsName_iff hemits hpaths' h' hfile', hpath]
    simp only [homePath_perm hsources hperm, hreferences, declared_perm hperm]
  -- Each part of a file has been described by what does not depend on the order of the services.
  refine ⟨?_, ?_, ?_, hnames⟩
  · ext s
    rw [service_eq_some_iff hemits hpaths h hfile, service_eq_some_iff hemits hpaths' h' hfile', hpath,
      hperm.mem_iff]
  · intro d
    rw [mem_declarations_iff hemits hpaths h hfile, mem_declarations_iff hemits hpaths' h' hfile', hpath,
      hplanned.mem_iff, homePath_perm hsources hperm]
  · intro path
    rw [exists_importsName_iff hemits hpaths h hfile, exists_importsName_iff hemits hpaths' h' hfile']
    exact exists_congr fun name => hnames path name

/-- A batch without two clients for one source or at one path, in which equal keys are declared equally, has the
same plan in any order but for the order of files, declarations and imports. -/
theorem plan_perm (hemits : layout.emitsDeclarations) (hsources : (clientSources services).Nodup)
    (hpaths : (clientPaths layout services).Nodup)
    (hsame : ∀ d ∈ allDeclarations services, ∀ d' ∈ allDeclarations services, d.key = d'.key → d = d')
    (hperm : services.Perm services') (h : plan layout services = .ok files) :
    ∃ files', plan layout services' = .ok files' ∧
      (files.map FilePlan.path).Perm (files'.map FilePlan.path) ∧
      ∀ file ∈ files, ∀ file' ∈ files', file.path = file'.path → file.SameContents file' := by
  obtain ⟨files', h'⟩ := plan_isOk_perm hsame hperm h
  have hpaths' : (clientPaths layout services').Nodup := (clientPaths_perm hperm).nodup_iff.mp hpaths
  refine ⟨files', h', ?_, ?_⟩
  · rw [List.perm_ext_iff_of_nodup (nodup_paths_plan hemits hpaths h) (nodup_paths_plan hemits hpaths' h')]
    intro path
    rw [mem_paths_plan_iff hemits hpaths h, mem_paths_plan_iff hemits hpaths' h', (clientPaths_perm hperm).mem_iff]
    simp only [homePath_perm hsources hperm, (plannedDeclarations_perm hsame hperm).mem_iff]
  · intro file hfile file' hfile' hpath
    exact sameContents_perm hemits hsources hpaths hsame hperm h h' hfile hfile' hpath

/-- Two services that lead to the same two records find them in an order of their own each. -/
theorem plan_perm_sharing :
    ∃ files files', plan flatLayout sharingServices = .ok files ∧
      plan flatLayout sharingServices.reverse = .ok files' ∧
      plannedDeclarations sharingServices ≠ plannedDeclarations sharingServices.reverse ∧
      ∀ file ∈ files, ∀ file' ∈ files', file.path = file'.path → file.SameContents file' := by
  have hkinds : ∀ d ∈ allDeclarations sharingServices, ∃ kind, d.enumValueKind = .ok kind := by
    simp [allDeclarations, sharingServices, serviceGiving, linkedRecords, Declaration.enumValueKind]
  have hsame : ∀ d ∈ allDeclarations sharingServices, ∀ d' ∈ allDeclarations sharingServices,
      d.key = d'.key → d = d' := by
    simp [allDeclarations, sharingServices, serviceGiving, linkedRecords, Declaration.key]
  obtain ⟨files, h⟩ := plan_isOk flatLayout hkinds
  obtain ⟨files', h', -, hcontents⟩ := plan_perm rfl (by decide_cbv) (by decide_cbv) hsame
    (List.reverse_perm sharingServices).symm h
  refine ⟨files, files', h, h', ?_, hcontents⟩
  intro heq
  have hkeys := congrArg (List.map Declaration.key) heq
  revert hkeys
  decide_cbv

end ServiceStubs
