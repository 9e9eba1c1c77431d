import ServiceStubs.Proofs.Plan.ImportGraph
import ServiceStubs.Proofs.Start

/-!
# Plans without what clients do not need

A service is restricted to a list of keys when its other declarations are taken out, together with the
methods that are not exposed. Where the list suffices, that is, holds whatever the exposed methods mention and
whatever a declaration of one of its keys mentions, nothing of a plan changes but the services that it
carries along.

* `Suffices` says which lists of keys suffice;
* `closeKeys_filter` says that the search never opens what has been taken out;
* `plan_restricted` says that the plan of restricted services is the restricted plan.
-/

namespace ServiceStubs

variable {layout : Layout} {services : List Service} {keys : List DeclKey}

/-! ## Restricted services -/

/-- The service with its exposed methods only, and with the declarations of the given keys only. -/
def Service.restricted (keys : List DeclKey) (s : Service) : Service :=
  { s with
    api := { s.api with methods := s.api.exposedMethods }
    declarations := s.declarations.filter fun d => d.key ∈ keys }

@[simp] theorem exposedMethods_restricted (keys : List DeclKey) (s : Service) :
    (s.restricted keys).api.exposedMethods = s.api.exposedMethods := by
  unfold Service.restricted ServiceClass.exposedMethods
  simp

@[simp] theorem exposedReferences_restricted (keys : List DeclKey) (s : Service) :
    (s.restricted keys).exposedReferences = s.exposedReferences := by
  unfold Service.exposedReferences
  rw [exposedMethods_restricted]

/-- The same restriction takes declarations out of a batch and out of each of its services. -/
theorem allDeclarations_restricted (keys : List DeclKey) (services : List Service) :
    allDeclarations (services.map (Service.restricted keys)) =
      (allDeclarations services).filter fun d => d.key ∈ keys := by
  unfold allDeclarations
  rw [List.flatMap_map, List.filter_flatMap]
  rfl

/-- The keys hold whatever an exposed method mentions, and with a key whatever its declarations mention. -/
structure Suffices (keys : List DeclKey) (services : List Service) : Prop where
  signatures : ∀ s ∈ services, ∀ r ∈ s.exposedReferences, r.key ∈ keys
  bodies : ∀ d ∈ allDeclarations services, d.key ∈ keys → ∀ r ∈ d.references, r.key ∈ keys

/-! ## The search -/

/-- Taking out declarations of other keys does not change what is found for a key. -/
theorem findDeclaration_filter {table : List Declaration} {key : DeclKey} (h : key ∈ keys) :
    findDeclaration (table.filter fun d => d.key ∈ keys) key = findDeclaration table key := by
  unfold findDeclaration
  rw [List.find?_filter]
  congr 1
  funext d
  by_cases hkey : d.key = key
  · simp [hkey, h]
  · simp [hkey]

/-- Declarations of keys that do not come up in the search can be taken out of its table. -/
theorem closeKeys_filter {table : List Declaration}
    (hbodies : ∀ d ∈ table, d.key ∈ keys → ∀ r ∈ d.references, r.key ∈ keys) (seen queue : List DeclKey)
    (hqueue : ∀ key ∈ queue, key ∈ keys) :
    closeKeys (table.filter fun d => d.key ∈ keys) seen queue = closeKeys table seen queue := by
  fun_induction closeKeys table seen queue with
  | case1 seen => rw [closeKeys]
  | case2 seen key queue hseen ih =>
    rw [closeKeys_seen hseen]
    exact ih fun k hk => hqueue k (List.mem_cons_of_mem key hk)
  | case3 seen key queue hseen d hfind ih =>
    -- What the declaration adds to the queue is in the list of keys again.
    have hkey : key ∈ keys := hqueue key List.mem_cons_self
    have hadded : ∀ k ∈ queue ++ d.references.map TypeRef.key, k ∈ keys := by
      intro k hk
      rcases List.mem_append.mp hk with hk | hk
      · exact hqueue k (List.mem_cons_of_mem key hk)
      · obtain ⟨r, hr, rfl⟩ := List.mem_map.mp hk
        have hd : d.key ∈ keys := key_eq_of_findDeclaration hfind ▸ hkey
        exact hbodies d (mem_of_findDeclaration hfind) hd r hr
    rw [closeKeys_found hseen ((findDeclaration_filter hkey).trans hfind), ih hadded]
  | case4 seen key queue hseen hfind ih =>
    have hkey : key ∈ keys := hqueue key List.mem_cons_self
    have hrest : ∀ k ∈ queue, k ∈ keys := fun k hk => hqueue k (List.mem_cons_of_mem key hk)
    rw [closeKeys_missing hseen ((findDeclaration_filter hkey).trans hfind), ih hrest]

/-- The same declarations are reached, in the same order. -/
theorem reached_filter {table : List Declaration}
    (hbodies : ∀ d ∈ table, d.key ∈ keys → ∀ r ∈ d.references, r.key ∈ keys) {queue : List DeclKey}
    (hqueue : ∀ key ∈ queue, key ∈ keys) :
    (closeKeys (table.filter fun d => d.key ∈ keys) [] queue).filterMap
        (findDeclaration (table.filter fun d => d.key ∈ keys)) =
      (closeKeys table [] queue).filterMap (findDeclaration table) := by
  have hfound : ∀ key ∈ closeKeys table [] queue, key ∈ keys := by
    apply closeKeys_sound
    · rintro key key' hkey ⟨d, hfind, hmem⟩
      obtain ⟨r, hr, rfl⟩ := List.mem_map.mp hmem
      have hd : d.key ∈ keys := key_eq_of_findDeclaration hfind ▸ hkey
      exact hbodies d (mem_of_findDeclaration hfind) hd r hr
    · simpa using hqueue
  rw [closeKeys_filter hbodies [] queue hqueue]
  exact List.filterMap_congr fun key hkey => findDeclaration_filter (hfound key hkey)

theorem exposedReferences_map_restricted (keys : List DeclKey) (services : List Service) :
    ((services.map (Service.restricted keys)).flatMap fun s => s.exposedReferences.map TypeRef.key) =
      services.flatMap fun s => s.exposedReferences.map TypeRef.key := by
  rw [List.flatMap_map]
  exact List.flatMap_congr fun s _ => by rw [exposedReferences_restricted]

theorem plannedDeclarations_restricted (h : Suffices keys services) :
    plannedDeclarations (services.map (Service.restricted keys)) = plannedDeclarations services := by
  have hqueue : ∀ key ∈ services.flatMap fun s => s.exposedReferences.map TypeRef.key, key ∈ keys := by
    intro key hkey
    obtain ⟨s, hs, hkey⟩ := List.mem_flatMap.mp hkey
    obtain ⟨r, hr, rfl⟩ := List.mem_map.mp hkey
    exact h.signatures s hs r hr
  have hreached := reached_filter h.bodies hqueue
  rw [← allDeclarations_restricted] at hreached
  show (reachableKeys _ _).filterMap _ = (reachableKeys _ _).filterMap _
  unfold reachableKeys
  rw [exposedReferences_map_restricted]
  exact hreached

/-- A service of its own reaches the same declarations, too. -/
theorem reachableDeclarations_restricted (h : Suffices keys services) {s : Service} (hs : s ∈ services) :
    (s.restricted keys).reachableDeclarations = s.reachableDeclarations := by
  have hbodies : ∀ d ∈ s.declarations.reverse, d.key ∈ keys → ∀ r ∈ d.references, r.key ∈ keys := by
    intro d hd
    exact h.bodies d (List.mem_flatMap.mpr ⟨s, hs, List.mem_reverse.mp hd⟩)
  have hqueue : ∀ key ∈ [s].flatMap fun s => s.exposedReferences.map TypeRef.key, key ∈ keys := by
    intro key hkey
    rw [List.flatMap_singleton] at hkey
    obtain ⟨r, hr, rfl⟩ := List.mem_map.mp hkey
    exact h.signatures s hs r hr
  have htable : (s.restricted keys).declarations.reverse = s.declarations.reverse.filter fun d => d.key ∈ keys :=
    List.filter_reverse.symm
  unfold Service.reachableDeclarations reachableKeys
  dsimp only
  rw [htable, ← reached_filter hbodies hqueue]
  simp only [List.flatMap_singleton, exposedReferences_restricted]

/-! ## Files -/

/-- The file for the restricted service. -/
def FilePlan.restricted (keys : List DeclKey) (file : FilePlan) : FilePlan :=
  { file with service := file.service.map (Service.restricted keys) }

@[simp] theorem FilePlan.references_restricted (keys : List DeclKey) (file : FilePlan) :
    (file.restricted keys).references = file.references := by
  obtain ⟨path, service, declarations, imports⟩ := file
  cases service with
  | none => rfl
  | some s => simp [FilePlan.restricted, FilePlan.references]

@[simp] theorem FilePlan.isClientOf_restricted (keys : List DeclKey) (file : FilePlan) (modulePath : String) :
    (file.restricted keys).isClientOf modulePath = file.isClientOf modulePath := by
  obtain ⟨path, service, declarations, imports⟩ := file
  cases service <;> rfl

theorem clientFiles_restricted (keys : List DeclKey) (layout : Layout) (services : List Service) :
    clientFiles layout (services.map (Service.restricted keys)) =
      (clientFiles layout services).map (FilePlan.restricted keys) := by
  unfold clientFiles
  rw [List.filter_map, List.map_map, List.map_map]
  have htest : ((fun s : Service => !s.api.exposedMethods.isEmpty) ∘ Service.restricted keys) =
      fun s => !s.api.exposedMethods.isEmpty := by
    funext s
    simp
  rw [htest]
  rfl

theorem ownerFor?_restricted (keys : List DeclKey) (layout : Layout) (files : List FilePlan)
    (d : Declaration) :
    ownerFor? layout (files.map (FilePlan.restricted keys)) d = ownerFor? layout files d := by
  have hlast : lastIdx? (fun f => f.path == layout.modelPath d.modulePath)
        (files.map (FilePlan.restricted keys)) =
      lastIdx? (fun f => f.path == layout.modelPath d.modulePath) files := by
    unfold lastIdx?
    rw [← List.map_reverse, List.findIdx?_map, List.length_map]
    rfl
  unfold ownerFor?
  rw [hlast, List.findIdx?_map]
  simp only [Function.comp_def, FilePlan.isClientOf_restricted]

theorem placeDeclaration_restricted (keys : List DeclKey) (layout : Layout) (files : List FilePlan)
    (d : Declaration) :
    placeDeclaration layout (files.map (FilePlan.restricted keys)) d =
      (placeDeclaration layout files d).map (FilePlan.restricted keys) := by
  unfold placeDeclaration
  rw [ownerFor?_restricted]
  cases ownerFor? layout files d with
  | none => simp [FilePlan.restricted]
  | some i =>
    apply List.ext_getElem?
    intro j
    simp only [List.getElem?_map, List.getElem?_modify]
    cases files[j]? with
    | none => rfl
    | some f => by_cases h : i = j <;> simp [h, FilePlan.restricted]

/-- The files own what they owned before. -/
theorem ownedFiles_restricted (layout : Layout) (h : Suffices keys services) :
    ownedFiles layout (services.map (Service.restricted keys)) =
      (ownedFiles layout services).map (FilePlan.restricted keys) := by
  unfold ownedFiles
  rw [plannedDeclarations_restricted h, clientFiles_restricted]
  exact List.foldl_hom (List.map (FilePlan.restricted keys)) fun files d =>
    placeDeclaration_restricted keys layout files d

theorem importsAt_restricted (keys : List DeclKey) (files : List FilePlan) (index : Nat) (file : FilePlan) :
    importsAt (files.map (FilePlan.restricted keys)) index (file.restricted keys) =
      importsAt files index file := by
  have howner : ∀ key, ownerOf? (files.map (FilePlan.restricted keys)) key = ownerOf? files key := by
    intro key
    unfold ownerOf?
    rw [List.findIdx?_map]
    rfl
  unfold importsAt foreignNames
  simp only [FilePlan.references_restricted, howner, List.getElem?_map, Option.map_map]
  rfl

/-! ## Plans -/

/-- A batch of restricted services is planned like the batch itself. -/
theorem plan_restricted (layout : Layout) (h : Suffices keys services) :
    plan layout (services.map (Service.restricted keys)) =
      (plan layout services).map (List.map (FilePlan.restricted keys)) := by
  have himports : ((ownedFiles layout services).map (FilePlan.restricted keys)).mapIdx (fun index file =>
        { file with imports := importsAt ((ownedFiles layout services).map (FilePlan.restricted keys)) index file }) =
      ((ownedFiles layout services).mapIdx fun index file =>
        { file with imports := importsAt (ownedFiles layout services) index file }).map
          (FilePlan.restricted keys) := by
    apply List.ext_getElem?
    intro i
    simp only [List.getElem?_mapIdx, List.getElem?_map]
    cases (ownedFiles layout services)[i]? with
    | none => rfl
    | some f =>
      simp only [Option.map_some, importsAt_restricted]
      rfl
  unfold plan
  rw [plannedDeclarations_restricted h, ownedFiles_restricted layout h, clientFiles_restricted]
  dsimp only
  rw [himports]
  -- Both plans begin with the same check of enums.
  simp only [bind, Except.bind]
  split
  · rfl
  · split <;> rfl

/-- The clients of a plan are those of services of the batch. -/
theorem service_mem_of_plan {files : List FilePlan} (h : plan layout services = .ok files) {file : FilePlan}
    (hfile : file ∈ files) {s : Service} (hs : file.service = some s) : s ∈ services := by
  by_cases hemits : layout.emitsDeclarations
  · exact ((mem_clients_plan_iff hemits h file.path s).mp ⟨file, hfile, rfl, hs⟩).1
  · obtain ⟨_, -, h⟩ := bind_eq_ok_iff.mp h
    rw [if_neg hemits] at h
    cases h
    obtain ⟨s', hs', rfl⟩ := List.mem_map.mp hfile
    cases hs
    exact (List.mem_filter.mp hs').1

end ServiceStubs
