import ServiceStubs.Proofs.Plan.Ownership

/-!
# What files import

A file imports the names that it mentions and other files own, and nothing else. The names of one owner
stand in one import, each of them once.

* `mem_foreignNames_iff` says which names are foreign to a file;
* `importsAt_spec` and `filter_importsAt` describe the imports of a file;
* `plan_eq` is the plan without its check of enums;
* `plan_correct` is the whole of it, for every batch of services.
-/

namespace ServiceStubs

/-! ## Imports of one file -/

theorem nodup_eraseDups {α : Type} [DecidableEq α] (xs : List α) : xs.eraseDups.Nodup := by
  match xs with
  | [] => simp
  | x :: rest =>
    rw [List.eraseDups_cons, List.nodup_cons]
    refine ⟨?_, nodup_eraseDups _⟩
    rw [List.mem_eraseDups]
    simp
termination_by xs.length
decreasing_by
  exact Nat.lt_succ_of_le (List.length_filter_le _ _)

variable {files : List FilePlan} {index : Nat} {file : FilePlan}

theorem mem_foreignNames_iff {owner : Nat} {name : String} :
    (owner, name) ∈ foreignNames files index file ↔
      ∃ r ∈ file.references, ownerOf? files r.key = some owner ∧ owner ≠ index ∧ r.name = name := by
  unfold foreignNames
  rw [List.mem_filterMap]
  constructor
  · rintro ⟨r, hr, hfound⟩
    rcases howner : ownerOf? files r.key with _ | i
    · rw [howner] at hfound
      cases hfound
    · rw [howner] at hfound
      dsimp only at hfound
      split at hfound
      · cases hfound
      · cases hfound
        exact ⟨r, hr, howner, by assumption, rfl⟩
  · rintro ⟨r, hr, howner, hne, rfl⟩
    refine ⟨r, hr, ?_⟩
    rw [howner]
    simp [hne]

/-- The names that a file takes from the file at a position, each of them once. -/
def namesFrom (files : List FilePlan) (index : Nat) (file : FilePlan) (owner : Nat) : List String :=
  (((foreignNames files index file).filter fun n => n.1 == owner).map (·.2)).eraseDups

theorem mem_namesFrom_iff {owner : Nat} {name : String} :
    name ∈ namesFrom files index file owner ↔ (owner, name) ∈ foreignNames files index file := by
  unfold namesFrom
  rw [List.mem_eraseDups, List.mem_map]
  constructor
  · rintro ⟨⟨owner', name'⟩, hmem, rfl⟩
    obtain ⟨hmem, heq⟩ := List.mem_filter.mp hmem
    have howner : owner' = owner := by simpa using heq
    rwa [howner] at hmem
  · intro hmem
    exact ⟨(owner, name), List.mem_filter.mpr ⟨hmem, by simp⟩, rfl⟩

/-- An import names its owner's file, takes something from it, and only what the file mentions. -/
theorem importsAt_spec {i : Import} (h : i ∈ importsAt files index file) :
    ∃ owner f, files[owner]? = some f ∧ owner ≠ index ∧ i.file = f.path ∧ i.names ≠ [] ∧
      ∀ name ∈ i.names, ∃ r ∈ file.references, r.name = name ∧ ownerOf? files r.key = some owner := by
  obtain ⟨owner, howner, hmap⟩ := List.mem_filterMap.mp h
  obtain ⟨f, hf, rfl⟩ := Option.map_eq_some_iff.mp hmap
  rw [List.mem_eraseDups, List.mem_map] at howner
  obtain ⟨⟨owner', name⟩, hforeign, rfl⟩ := howner
  have hname : name ∈ namesFrom files index file owner' := mem_namesFrom_iff.mpr hforeign
  obtain ⟨r, hr, hfound, hne, -⟩ := mem_foreignNames_iff.mp hforeign
  refine ⟨owner', f, hf, hne, rfl, List.ne_nil_of_mem hname, ?_⟩
  intro name' hname'
  obtain ⟨r', hr', hfound', -, hrn⟩ := mem_foreignNames_iff.mp (mem_namesFrom_iff.mp hname')
  exact ⟨r', hr', hrn, hfound'⟩

/-- A list without repetitions in which one member is replaced and all others are left out. -/
theorem filterMap_ite_eq {α β : Type} [DecidableEq α] {xs : List α} (h : xs.Nodup) {a : α} (ha : a ∈ xs)
    (b : β) : xs.filterMap (fun x => if x = a then some b else none) = [b] := by
  have hsplit : (fun x => if x = a then some b else none) =
      fun x => (Option.guard (· == a) x).map fun _ => b := by
    funext x
    by_cases hx : x = a
    · simp [Option.guard, hx]
    · simp [Option.guard, hx]
  rw [hsplit, ← List.map_filterMap, List.filterMap_eq_filter, List.filter_beq, h.count, if_pos ha]
  rfl

/-- If all files have their own paths, a file has one import for each owner that it mentions. -/
theorem filter_importsAt (hpaths : (files.map FilePlan.path).Nodup) {owner : Nat} {f : FilePlan}
    {name : String} (hf : files[owner]? = some f) (hforeign : (owner, name) ∈ foreignNames files index file) :
    (importsAt files index file).filter (fun i => i.file = f.path) =
      [⟨f.path, namesFrom files index file owner⟩] := by
  have hmem : owner ∈ ((foreignNames files index file).map (·.1)).eraseDups :=
    List.mem_eraseDups.mpr (List.mem_map_of_mem hforeign)
  unfold importsAt
  dsimp only
  rw [List.filter_filterMap, ← filterMap_ite_eq (nodup_eraseDups _) hmem]
  apply List.filterMap_congr
  intro owner' _
  by_cases heq : owner' = owner
  · subst heq
    rw [hf, if_pos rfl]
    simp [Option.filter, namesFrom]
  · rw [if_neg heq]
    rcases hf' : files[owner']? with _ | f'
    · rfl
    · have hne : f'.path ≠ f.path := fun hpath => heq (eq_of_path_eq hpaths hf' hf hpath)
      simp [Option.filter, hne]

/-! ## Whole plans -/

/-- A plan for a target with files for declarations, without its check of enums. -/
theorem plan_eq {layout : Layout} {services : List Service} (hemits : layout.emitsDeclarations)
    (h : plan layout services = .ok files) :
    files = (ownedFiles layout services).mapIdx fun index file =>
      { file with imports := importsAt (ownedFiles layout services) index file } := by
  unfold plan at h
  rw [if_pos hemits] at h
  dsimp only [bind, Except.bind] at h
  split at h
  · cases h
  · cases h
    rfl

/-- The files of a plan are the owned files with their imports. -/
theorem mem_plan_iff {layout : Layout} {services : List Service} (hemits : layout.emitsDeclarations)
    (h : plan layout services = .ok files) {file : FilePlan} :
    file ∈ files ↔ ∃ (index : Nat) (f : FilePlan), (ownedFiles layout services)[index]? = some f ∧
      file = { f with imports := importsAt (ownedFiles layout services) index f } := by
  rw [plan_eq hemits h, List.mem_mapIdx]
  constructor
  · rintro ⟨index, hlt, rfl⟩
    exact ⟨index, _, List.getElem?_eq_getElem hlt, rfl⟩
  · rintro ⟨index, f, hf, rfl⟩
    obtain ⟨hlt, rfl⟩ := List.getElem?_eq_some_iff.mp hf
    exact ⟨index, hlt, rfl⟩

/-- Whatever a planned file mentions and some service declares has an owner. -/
theorem owner_of_mentioned {layout : Layout} {services : List Service}
    (hpaths : (clientPaths layout services).Nodup) {f : FilePlan} (hf : f ∈ ownedFiles layout services)
    {r : TypeRef} (hr : r ∈ f.references) (hdeclared : Declared services r.key) :
    r.key ∈ ownedKeys (ownedFiles layout services) := by
  have hplaced := ownedFiles_placed hpaths
  rw [mem_ownedKeys hpaths]
  refine ⟨?_, hdeclared⟩
  rcases List.mem_append.mp hr with hr | hr
  · -- A mention in a declaration: this has been planned, and the search has followed it.
    obtain ⟨d, hd, hrd⟩ := List.mem_flatMap.mp hr
    have hplanned : d ∈ plannedDeclarations services :=
      hplaced.owned.mem_iff.mp (List.mem_flatMap.mpr ⟨f, hf, hd⟩)
    obtain ⟨hreach, hfind⟩ := (mem_plannedDeclarations_iff services d).mp hplanned
    exact .body hreach ⟨d, hfind, List.mem_map_of_mem hrd⟩
  · -- A mention in a signature: the file is the client of one of the services, where the search begins.
    cases hs : f.service with
    | none =>
      rw [hs] at hr
      cases hr
    | some s =>
      rw [hs] at hr
      have hclient : (f.path, s) ∈ clientsOf (ownedFiles layout services) :=
        List.mem_filterMap.mpr ⟨f, hf, by simp [hs]⟩
      rw [hplaced.clients] at hclient
      obtain ⟨f', hf', hpair⟩ := List.mem_filterMap.mp hclient
      obtain ⟨s', hs', rfl⟩ := List.mem_map.mp hf'
      rw [Option.map_some, Option.some.injEq] at hpair
      have heq : s' = s := congrArg Prod.snd hpair
      subst heq
      exact .signature (List.mem_filter.mp hs').1 hr

/-- Imports change nothing else about the files. -/
theorem map_plan {layout : Layout} {services : List Service} (hemits : layout.emitsDeclarations)
    (h : plan layout services = .ok files) {α : Type} {g : FilePlan → α}
    (hg : ∀ f imports, g { f with imports := imports } = g f) :
    files.map g = (ownedFiles layout services).map g := by
  rw [plan_eq hemits h]
  apply List.ext_getElem?
  intro i
  rw [List.getElem?_map, List.getElem?_map, List.getElem?_mapIdx, Option.map_map]
  congr 1
  funext f
  exact hg f _

theorem clientsOf_plan {layout : Layout} {services : List Service} (hemits : layout.emitsDeclarations)
    (h : plan layout services = .ok files) : clientsOf files = clientsOf (ownedFiles layout services) := by
  have hmap : ∀ fs : List FilePlan, clientsOf fs =
      (fs.map fun f => f.service.map fun s => (f.path, s)).filterMap id := by
    intro fs
    rw [List.filterMap_map]
    rfl
  rw [hmap, hmap, map_plan hemits h fun _ _ => rfl]

theorem ownedKeys_plan {layout : Layout} {services : List Service} (hemits : layout.emitsDeclarations)
    (h : plan layout services = .ok files) : ownedKeys files = ownedKeys (ownedFiles layout services) := by
  unfold ownedKeys
  rw [List.flatMap_def, List.flatMap_def, map_plan hemits h fun _ _ => rfl]

/-- What a file of a plan imports. It mentions only what it owns itself or takes from the owner, in one
import, once; and what it imports it takes from another file that owns it, because it mentions it. -/
structure FilePlan.Linked (services : List Service) (files : List FilePlan) (file : FilePlan) : Prop where
  complete : ∀ r ∈ file.references, Declared services r.key →
    file.Owns r.key ∨ ∃ owner ∈ files, owner.Owns r.key ∧
      ∃ i, file.imports.filter (fun i => i.file = owner.path) = [i] ∧ i.names.count r.name = 1
  minimal : ∀ i ∈ file.imports, i.file ≠ file.path ∧ i.names ≠ [] ∧
    ∀ name ∈ i.names, ∃ r ∈ file.references, r.name = name ∧ ¬file.Owns r.key ∧
      ∃ owner ∈ files, owner.path = i.file ∧ owner.Owns r.key

theorem linked_plan {layout : Layout} {services : List Service} (hemits : layout.emitsDeclarations)
    (hpaths : (clientPaths layout services).Nodup) (h : plan layout services = .ok files)
    (hfile : file ∈ files) : file.Linked services files := by
  obtain ⟨index, f, hf, rfl⟩ := (mem_plan_iff hemits h).mp hfile
  have hplaced := ownedFiles_placed hpaths
  have hmem : f ∈ ownedFiles layout services := List.mem_of_getElem? hf
  refine ⟨?_, ?_⟩
  · intro r hr hdeclared
    obtain ⟨owner, hlt, howner, howns⟩ := ownerOf?_spec (owner_of_mentioned hpaths hmem hr hdeclared)
    have hget := List.getElem?_eq_getElem hlt
    by_cases heq : owner = index
    · subst heq
      rw [hget] at hf
      cases hf
      exact .inl howns
    · have hforeign : (owner, r.name) ∈ foreignNames (ownedFiles layout services) index f :=
        mem_foreignNames_iff.mpr ⟨r, hr, howner, heq, rfl⟩
      have honly := filter_importsAt hplaced.distinct hget hforeign
      refine .inr ⟨_, (mem_plan_iff hemits h).mpr ⟨owner, _, hget, rfl⟩, howns, _, honly, ?_⟩
      have hname := mem_namesFrom_iff.mpr hforeign
      have hnodup : (namesFrom (ownedFiles layout services) index f owner).Nodup := nodup_eraseDups _
      rw [hnodup.count, if_pos hname]
  · -- The owner is not the file itself, and no key has two owners.
    intro i hi
    obtain ⟨owner, g, hg, hne, hpath, hnames, hmentioned⟩ := importsAt_spec hi
    refine ⟨?_, hnames, ?_⟩
    · rw [hpath]
      exact fun heq => hne (eq_of_path_eq hplaced.distinct hg hf heq)
    · intro name hname
      obtain ⟨r, hr, hrn, howner⟩ := hmentioned name hname
      obtain ⟨g', hg', howns⟩ := owns_of_ownerOf? howner
      rw [hg] at hg'
      cases hg'
      refine ⟨r, hr, hrn, ?_, _, (mem_plan_iff hemits h).mpr ⟨owner, g, hg, rfl⟩, hpath.symm, howns⟩
      exact fun hself => hne (eq_of_owns (nodup_ownedKeys hpaths) hg hf howns hself)

/-- Every batch of services whose clients have paths of their own. There is a client for each service with
an exposed method, and no other; every key that is needed and declared is owned once, and no other key is,
with the declaration that counts for it; and files import what they mention and do not own. -/
theorem plan_correct {layout : Layout} {services : List Service} (hemits : layout.emitsDeclarations)
    (hpaths : (clientPaths layout services).Nodup) (h : plan layout services = .ok files) :
    clientsOf files = (services.filter fun s => !s.api.exposedMethods.isEmpty).map
        (fun s => (layout.clientPath s.api.name, s)) ∧
      (∀ key, (Reaches services key ∧ Declared services key → (ownedKeys files).count key = 1) ∧
        (¬(Reaches services key ∧ Declared services key) → ∀ f ∈ files, ¬f.Owns key)) ∧
      (∀ f ∈ files, ∀ d ∈ f.declarations, findDeclaration (allDeclarations services) d.key = some d) ∧
      ∀ f ∈ files, f.Linked services files := by
  have hkeys := ownedKeys_plan hemits h
  refine ⟨?_, ?_, ?_, fun f hf => linked_plan hemits hpaths h hf⟩
  · rw [clientsOf_plan hemits h, (ownedFiles_placed hpaths).clients, clientsOf_clientFiles]
  · intro key
    -- Linking files leaves the keys with their owners, so that all follows from where the keys were put.
    rw [← mem_ownedKeys hpaths, ← hkeys]
    refine ⟨?_, ?_⟩
    · intro hmem
      have hnodup : (ownedKeys files).Nodup := hkeys ▸ nodup_ownedKeys hpaths
      rw [hnodup.count, if_pos hmem]
    · intro hnot f hf howns
      exact hnot (List.mem_flatMap.mpr ⟨f, hf, howns⟩)
  · intro file hfile d hd
    obtain ⟨index, f, hf, rfl⟩ := (mem_plan_iff hemits h).mp hfile
    have hplanned : d ∈ plannedDeclarations services :=
      (ownedFiles_placed hpaths).owned.mem_iff.mp (List.mem_flatMap.mpr ⟨f, List.mem_of_getElem? hf, hd⟩)
    exact ((mem_plannedDeclarations_iff services d).mp hplanned).2

/-! ## Two services that share a module -/

/-- There is a plan unless an enum mixes kinds of values. -/
theorem plan_isOk (layout : Layout) {services : List Service}
    (h : ∀ d ∈ allDeclarations services, ∃ kind, d.enumValueKind = .ok kind) :
    ∃ files, plan layout services = .ok files := by
  have hplanned : ∀ d ∈ plannedDeclarations services, ∃ kind, d.enumValueKind = .ok kind := fun d hd =>
    h d (mem_of_findDeclaration ((mem_plannedDeclarations_iff services d).mp hd).2)
  have hcheck : ∀ ds : List Declaration, (∀ d ∈ ds, ∃ kind, d.enumValueKind = .ok kind) →
      forIn ds PUnit.unit (fun d _ => do
        let _ ← d.enumValueKind
        pure (ForInStep.yield PUnit.unit)) = (.ok PUnit.unit : Except Error PUnit) := by
    intro ds hds
    induction ds with
    | nil => rfl
    | cons d rest ih =>
      obtain ⟨kind, hkind⟩ := hds d List.mem_cons_self
      rw [List.forIn_cons, hkind]
      exact ih fun d' hd' => hds d' (List.mem_cons_of_mem d hd')
  unfold plan
  rw [hcheck _ hplanned]
  by_cases hemits : layout.emitsDeclarations
  · exact ⟨_, by rw [if_pos hemits]; rfl⟩
  · exact ⟨_, by rw [if_neg hemits]; rfl⟩

/-- A method that gives a record of the module `models`. -/
def giving (name type : String) : Method :=
  { name := name
    params := []
    returns := .named ⟨type, "models", .record⟩
    exposure := .rpc
    docs := none }

/-- Two records that refer to each other. -/
def linkedRecords : List Declaration :=
  [⟨"R", "models", .record [⟨"next", true, .named ⟨"Q", "models", .record⟩⟩], none⟩,
    ⟨"Q", "models", .record [⟨"next", true, .named ⟨"R", "models", .record⟩⟩], none⟩]

/-- A service of one method, which gives one of the records. -/
def serviceGiving (modulePath className type : String) : Service :=
  ⟨.typeScript, modulePath, ⟨className, [giving "find" type], none⟩, linkedRecords⟩

/-- Two services whose methods give one of the records each. -/
def sharingServices : List Service :=
  [serviceGiving "a" "A" "R", serviceGiving "b" "B" "Q"]

/-- Files beside each other, named after classes and modules. -/
def flatLayout : Layout :=
  { clientPath := fun name => name ++ ".ts"
    modelPath := fun path => path ++ ".ts"
    runtimePath := "remote.ts"
    emitsDeclarations := true }

/-- The second record is owned once, though both services lead to it. -/
theorem plan_correct_sharing :
    ∃ files, plan flatLayout sharingServices = .ok files ∧
      (clientsOf files).map Prod.fst = ["A.ts", "B.ts"] ∧
      (ownedKeys files).count ⟨"Q", "models"⟩ = 1 ∧ ∀ f ∈ files, f.Linked sharingServices files := by
  have hkinds : ∀ d ∈ allDeclarations sharingServices, ∃ kind, d.enumValueKind = .ok kind := by
    simp [allDeclarations, sharingServices, serviceGiving, linkedRecords, Declaration.enumValueKind]
  obtain ⟨files, h⟩ := plan_isOk flatLayout hkinds
  obtain ⟨hclients, hkeys, -, hlinked⟩ := plan_correct rfl (by decide_cbv) h
  have hreach : Reaches sharingServices ⟨"Q", "models"⟩ := by
    have hs : serviceGiving "b" "B" "Q" ∈ sharingServices := by simp [sharingServices]
    have hr : (⟨"Q", "models", .record⟩ : TypeRef) ∈ (serviceGiving "b" "B" "Q").exposedReferences := by
      simp [serviceGiving, Service.exposedReferences, ServiceClass.exposedMethods, giving,
        Exposure.isCallable, Method.references, DataType.references]
    exact .signature hs hr
  have hdeclared : Declared sharingServices ⟨"Q", "models"⟩ := by
    simp [Declared, sharingServices, serviceGiving, linkedRecords, Declaration.key]
  refine ⟨files, h, ?_, (hkeys _).1 ⟨hreach, hdeclared⟩, hlinked⟩
  rw [hclients]
  decide_cbv

end ServiceStubs
