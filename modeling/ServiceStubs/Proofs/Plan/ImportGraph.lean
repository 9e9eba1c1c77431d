import Mathlib.Logic.Relation
import ServiceStubs.Proofs.Plan.Imports

/-!
# Which files import which

The files of a plan import each other as their contents mention each other. Which file holds a declaration
depends on the module of the declaration alone, so that the imports can be told without the plan.

* `homePath` is the path of the file that holds the declarations of a module;
* `service_eq_some_iff`, `mem_declarations_iff` and `importsName_iff` say what is in a file, by the services alone;
* `Needs` says that one path needs another one;
* `importsFrom_iff_needs` says that these are the imports of the plan;
* `Circular` says that something leads back to itself.
-/

namespace ServiceStubs

variable {layout : Layout} {services : List Service} {files : List FilePlan}

/-! ## Where declarations live -/

/-- The path of the file that holds the declarations of a module: the first client for it, or else the file
that is named after the module. -/
def homePath (layout : Layout) (services : List Service) (modulePath : String) : String :=
  match services.find? fun s => !s.api.exposedMethods.isEmpty && s.modulePath == modulePath with
  | some s => layout.clientPath s.api.name
  | none => layout.modelPath modulePath

/-- The first client for a module among some files is the first one among their services. -/
theorem find?_isClientOf (files : List FilePlan) (modulePath : String) :
    (files.find? fun f => f.isClientOf modulePath).map FilePlan.path =
      ((clientsOf files).find? fun c => c.2.modulePath == modulePath).map Prod.fst := by
  induction files with
  | nil => rfl
  | cons f rest ih =>
    rw [List.find?_cons]
    unfold FilePlan.isClientOf clientsOf at *
    rcases hservice : f.service with _ | s
    · simpa [hservice] using ih
    · by_cases hpath : s.modulePath = modulePath
      · simp [hservice, hpath]
      · simpa [hservice, hpath, beq_false_of_ne hpath] using ih

/-- The first client for a module among some files with the clients of the services is the home of its
declarations. -/
theorem homePath_eq (hclients : clientsOf files = clientsOf (clientFiles layout services)) (modulePath : String) :
    homePath layout services modulePath =
      ((files.find? fun f => f.isClientOf modulePath).map FilePlan.path).getD (layout.modelPath modulePath) := by
  rw [find?_isClientOf, hclients, clientsOf_clientFiles, List.find?_map, List.find?_filter]
  unfold homePath
  have htest : (fun s : Service => decide ((!s.api.exposedMethods.isEmpty) = true ∧
      ((fun c : String × Service => c.2.modulePath == modulePath) ∘
        fun s => (layout.clientPath s.api.name, s)) s = true)) =
      fun s => !s.api.exposedMethods.isEmpty && s.modulePath == modulePath := by
    funext s
    rcases s.api.exposedMethods with _ | ⟨m, ms⟩
    · simp
    · simp [Bool.beq_eq_decide_eq]
  rw [htest]
  cases services.find? fun s => !s.api.exposedMethods.isEmpty && s.modulePath == modulePath with
  | none => rfl
  | some s => rfl

/-- The file that takes a declaration is at the home of its module. -/
theorem path_of_ownerFor? (hclients : clientsOf files = clientsOf (clientFiles layout services))
    {d : Declaration} {i : Nat} (h : ownerFor? layout files d = some i) :
    files[i]?.map FilePlan.path = some (homePath layout services d.modulePath) := by
  rw [homePath_eq hclients]
  unfold ownerFor? at h
  split at h
  · rename_i j hj
    cases h
    obtain ⟨hlt, hclient, hbefore⟩ := List.findIdx?_eq_some_iff_getElem.mp hj
    have hfind : (files.find? fun f => f.isClientOf d.modulePath) = some files[i] :=
      List.find?_eq_some_iff_getElem.mpr ⟨hclient, i, hlt, rfl, fun j hj => by simpa using hbefore j hj⟩
    rw [hfind, List.getElem?_eq_getElem hlt]
    rfl
  · rename_i hnone
    have hfind : (files.find? fun f => f.isClientOf d.modulePath) = none :=
      List.find?_eq_none.mpr fun f hf => by simpa using List.findIdx?_eq_none_iff.mp hnone f hf
    obtain ⟨hlt, hpath⟩ := lastIdx?_eq_some h
    rw [hfind, List.getElem?_eq_getElem hlt]
    simpa using hpath

/-- A declaration that no file can take has its home at the path for its module. -/
theorem homePath_of_ownerFor?_eq_none (hclients : clientsOf files = clientsOf (clientFiles layout services))
    {d : Declaration} (h : ownerFor? layout files d = none) :
    homePath layout services d.modulePath = layout.modelPath d.modulePath := by
  have hfind : (files.find? fun f => f.isClientOf d.modulePath) = none :=
    List.find?_eq_none.mpr fun f hf => (ownerFor?_eq_none h f hf).1
  rw [homePath_eq hclients, hfind]
  rfl

/-- All declarations are at home, and the clients are those of the services. -/
structure AtHome (layout : Layout) (services : List Service) (files : List FilePlan) : Prop where
  clients : clientsOf files = clientsOf (clientFiles layout services)
  home : ∀ f ∈ files, ∀ d ∈ f.declarations, f.path = homePath layout services d.modulePath

theorem placeDeclaration_atHome (h : AtHome layout services files) (d : Declaration) :
    AtHome layout services (placeDeclaration layout files d) := by
  refine ⟨(clientsOf_placeDeclaration layout files d).trans h.clients, ?_⟩
  unfold placeDeclaration
  rcases howner : ownerFor? layout files d with _ | i
  · -- No file takes the declaration, so that a new one is made at its home.
    dsimp only
    intro f hf d' hd'
    rcases List.mem_append.mp hf with hf | hf
    · exact h.home f hf d' hd'
    · rw [List.mem_singleton] at hf
      subst hf
      rw [List.mem_singleton.mp hd', homePath_of_ownerFor?_eq_none h.clients howner]
  · dsimp only
    -- The file that takes the declaration is at its home already; all others stay as they are.
    have hpath := path_of_ownerFor? h.clients howner
    intro f hf d' hd'
    obtain ⟨j, hj⟩ := List.mem_iff_getElem?.mp hf
    rw [List.getElem?_modify] at hj
    obtain ⟨g, hg, rfl⟩ := Option.map_eq_some_iff.mp hj
    by_cases heq : i = j
    · subst heq
      rw [hg] at hpath
      rw [if_pos rfl] at hd' ⊢
      rcases List.mem_append.mp hd' with hd' | hd'
      · exact h.home g (List.mem_of_getElem? hg) d' hd'
      · rw [List.mem_singleton.mp hd']
        exact Option.some.inj hpath
    · rw [if_neg heq] at hd' ⊢
      exact h.home g (List.mem_of_getElem? hg) d' hd'

theorem ownedFiles_atHome (layout : Layout) (services : List Service) :
    AtHome layout services (ownedFiles layout services) := by
  have hclients : AtHome layout services (clientFiles layout services) := by
    refine ⟨rfl, ?_⟩
    intro f hf d hd
    obtain ⟨s, -, rfl⟩ := List.mem_map.mp hf
    cases hd
  have hstep := fun (_ : List Declaration) files d (h : AtHome layout services files) =>
    placeDeclaration_atHome h d
  exact @foldl_placeDeclaration layout (fun _ => AtHome layout services) hstep
    (plannedDeclarations services) [] _ hclients

/-! ## Imports between paths -/

/-- A file of the plan at the first path imports names from the second one. -/
def ImportsFrom (files : List FilePlan) (path path' : String) : Prop :=
  ∃ file ∈ files, file.path = path ∧ ∃ i ∈ file.imports, i.file = path'

/-- The file at the first path mentions a declaration whose home is the second one, another path. It does so
in a declaration that clients need, or as the client of a service in the signature of a method. -/
def Needs (layout : Layout) (services : List Service) (path path' : String) : Prop :=
  path ≠ path' ∧
    ((∃ d ∈ plannedDeclarations services, homePath layout services d.modulePath = path ∧
        ∃ r ∈ d.references, Declared services r.key ∧ homePath layout services r.modulePath = path') ∨
      ∃ s ∈ services, layout.clientPath s.api.name = path ∧
        ∃ r ∈ s.exposedReferences, Declared services r.key ∧ homePath layout services r.modulePath = path')

theorem plan_atHome (hemits : layout.emitsDeclarations) (h : plan layout services = .ok files) :
    AtHome layout services files := by
  have hathome := ownedFiles_atHome layout services
  refine ⟨(clientsOf_plan hemits h).trans hathome.clients, ?_⟩
  intro file hfile
  obtain ⟨index, f, hf, rfl⟩ := (mem_plan_iff hemits h).mp hfile
  exact hathome.home f (List.mem_of_getElem? hf)

/-- The file that owns a key is at the home of its module. -/
theorem AtHome.path_of_owns (h : AtHome layout services files) {f : FilePlan} (hf : f ∈ files) {key : DeclKey}
    (howns : f.Owns key) : f.path = homePath layout services key.modulePath := by
  obtain ⟨d, hd, rfl⟩ := List.mem_map.mp howns
  exact h.home f hf d hd

/-- What is planned has been placed. -/
theorem mem_declarations_plan_iff (hemits : layout.emitsDeclarations)
    (hpaths : (clientPaths layout services).Nodup) (h : plan layout services = .ok files) (d : Declaration) :
    (∃ f ∈ files, d ∈ f.declarations) ↔ d ∈ plannedDeclarations services := by
  rw [← (ownedFiles_placed hpaths).owned.mem_iff, List.flatMap_def,
    ← map_plan hemits h (g := FilePlan.declarations) fun _ _ => rfl, ← List.flatMap_def, List.mem_flatMap]

/-- The client of a service with an exposed method is planned at its own path. -/
theorem mem_clients_plan_iff (hemits : layout.emitsDeclarations) (h : plan layout services = .ok files)
    (path : String) (s : Service) :
    (∃ f ∈ files, f.path = path ∧ f.service = some s) ↔
      s ∈ services ∧ s.api.exposedMethods ≠ [] ∧ layout.clientPath s.api.name = path := by
  have hclients : (path, s) ∈ clientsOf files ↔ s ∈ services ∧ s.api.exposedMethods ≠ [] ∧
      layout.clientPath s.api.name = path := by
    rw [(plan_atHome hemits h).clients, clientsOf_clientFiles]
    simp [and_assoc]
  rw [← hclients]
  unfold clientsOf
  rw [List.mem_filterMap]
  simp only [Option.map_eq_some_iff, Prod.mk.injEq]
  constructor
  · rintro ⟨f, hf, hpath, hs⟩
    exact ⟨f, hf, s, hs, hpath, rfl⟩
  · rintro ⟨f, hf, s', hs, hpath, rfl⟩
    exact ⟨f, hf, hpath, hs⟩

theorem nodup_paths_plan (hemits : layout.emitsDeclarations) (hpaths : (clientPaths layout services).Nodup)
    (h : plan layout services = .ok files) : (files.map FilePlan.path).Nodup := by
  rw [map_plan hemits h fun _ _ => rfl]
  exact (ownedFiles_placed hpaths).distinct

/-! ## Contents of a file -/

/-- Only exposed methods mention anything. -/
theorem exposedMethods_ne_nil {s : Service} {r : TypeRef} (hr : r ∈ s.exposedReferences) :
    s.api.exposedMethods ≠ [] := by
  intro hnil
  unfold Service.exposedReferences at hr
  rw [hnil] at hr
  cases hr

/-- The file imports a name from the file at a path. -/
def FilePlan.ImportsName (file : FilePlan) (path name : String) : Prop :=
  ∃ i ∈ file.imports, i.file = path ∧ name ∈ i.names

section

variable (hemits : layout.emitsDeclarations) (hpaths : (clientPaths layout services).Nodup)
  (h : plan layout services = .ok files) {file : FilePlan} (hfile : file ∈ files)

include hemits hpaths h hfile

/-- A file of a plan is the client of a service with an exposed method and with this path. -/
theorem service_eq_some_iff (s : Service) :
    file.service = some s ↔
      s ∈ services ∧ s.api.exposedMethods ≠ [] ∧ layout.clientPath s.api.name = file.path := by
  rw [← mem_clients_plan_iff hemits h]
  constructor
  · intro hservice
    exact ⟨file, hfile, rfl, hservice⟩
  · rintro ⟨f, hf, hpath, hservice⟩
    rwa [← List.inj_on_of_nodup_map (nodup_paths_plan hemits hpaths h) hf hfile hpath]

/-- A file of a plan holds what is planned and at home there. -/
theorem mem_declarations_iff (d : Declaration) :
    d ∈ file.declarations ↔
      d ∈ plannedDeclarations services ∧ homePath layout services d.modulePath = file.path := by
  have hathome := plan_atHome hemits h
  constructor
  · intro hd
    exact ⟨(mem_declarations_plan_iff hemits hpaths h d).mp ⟨file, hfile, hd⟩, (hathome.home file hfile d hd).symm⟩
  · rintro ⟨hd, hhome⟩
    obtain ⟨f, hf, hmem⟩ := (mem_declarations_plan_iff hemits hpaths h d).mpr hd
    have hpath := (hathome.home f hf d hmem).trans hhome
    rwa [← List.inj_on_of_nodup_map (nodup_paths_plan hemits hpaths h) hf hfile hpath]

/-- A file of a plan mentions what is mentioned in the declarations at home there, or, if it is a client, in the
signatures of its service. -/
theorem mem_references_iff (r : TypeRef) :
    r ∈ file.references ↔
      (∃ d ∈ plannedDeclarations services, homePath layout services d.modulePath = file.path ∧
          r ∈ d.references) ∨
        ∃ s ∈ services, layout.clientPath s.api.name = file.path ∧ r ∈ s.exposedReferences := by
  unfold FilePlan.references
  rw [List.mem_append, List.mem_flatMap]
  refine or_congr (exists_congr fun d => ?_) ?_
  · rw [mem_declarations_iff hemits hpaths h hfile, and_assoc]
  · constructor
    · intro hr
      rcases hservice : file.service with _ | s
      · rw [hservice] at hr
        cases hr
      · rw [hservice] at hr
        obtain ⟨hs, -, hpath⟩ := (service_eq_some_iff hemits hpaths h hfile s).mp hservice
        exact ⟨s, hs, hpath, hr⟩
    · rintro ⟨s, hs, hpath, hr⟩
      rw [(service_eq_some_iff hemits hpaths h hfile s).mpr ⟨hs, exposedMethods_ne_nil hr, hpath⟩]
      exact hr

/-- A file owns what it mentions if this is at home there. -/
theorem owns_iff_of_mentioned {r : TypeRef} (hr : r ∈ file.references) (hdeclared : Declared services r.key) :
    file.Owns r.key ↔ homePath layout services r.modulePath = file.path := by
  have hathome := plan_atHome hemits h
  have hlinked := linked_plan hemits hpaths h hfile
  constructor
  · intro howns
    exact (hathome.path_of_owns hfile howns).symm
  · intro hhome
    rcases hlinked.complete r hr hdeclared with hself | ⟨owner, howner, howns, i, honly, -⟩
    · exact hself
    · -- Nothing is imported from the file itself.
      have hi : i ∈ file.imports.filter fun i => i.file = owner.path := honly ▸ List.mem_singleton_self i
      obtain ⟨hi, hpath⟩ := List.mem_filter.mp hi
      have howner := hathome.path_of_owns howner howns
      exact absurd ((of_decide_eq_true hpath).trans (howner.trans hhome)) (hlinked.minimal i hi).1

/-- A file imports the names that it mentions from the homes of their modules, if these are other files. -/
theorem importsName_iff (path name : String) :
    file.ImportsName path name ↔ file.path ≠ path ∧
      ∃ r ∈ file.references, r.name = name ∧ Declared services r.key ∧
        homePath layout services r.modulePath = path := by
  have hathome := plan_atHome hemits h
  have hlinked := linked_plan hemits hpaths h hfile
  constructor
  · -- Nothing is imported that is not mentioned, and what is imported is owned by the file it comes from.
    rintro ⟨i, hi, rfl, hname⟩
    obtain ⟨hother, -, hmentioned⟩ := hlinked.minimal i hi
    obtain ⟨r, hr, rfl, -, owner, howner, hpath, howns⟩ := hmentioned name hname
    have hdeclared : Declared services r.key := by
      have hkey : r.key ∈ ownedKeys files := List.mem_flatMap.mpr ⟨owner, howner, howns⟩
      rw [ownedKeys_plan hemits h, mem_ownedKeys hpaths] at hkey
      exact hkey.2
    exact ⟨fun heq => hother heq.symm, r, hr, rfl, hdeclared, (hathome.path_of_owns howner howns).symm.trans hpath⟩
  · -- Nothing that is mentioned is left out, and its owner is at home at the path.
    rintro ⟨hother, r, hr, rfl, hdeclared, rfl⟩
    rcases hlinked.complete r hr hdeclared with hself | ⟨owner, howner, howns, i, honly, hcount⟩
    · exact absurd (hathome.path_of_owns hfile hself) hother
    · have hi : i ∈ file.imports.filter fun i => i.file = owner.path := honly ▸ List.mem_singleton_self i
      obtain ⟨hi, hpath⟩ := List.mem_filter.mp hi
      refine ⟨i, hi, (of_decide_eq_true hpath).trans (hathome.path_of_owns howner howns), ?_⟩
      exact List.count_pos_iff.mp (hcount ▸ Nat.one_pos)

/-- Whatever file is imported, some name is imported from it. -/
theorem exists_importsName_iff (path : String) :
    (∃ i ∈ file.imports, i.file = path) ↔ ∃ name, file.ImportsName path name := by
  constructor
  · rintro ⟨i, hi, hpath⟩
    obtain ⟨-, hnames, -⟩ := (linked_plan hemits hpaths h hfile).minimal i hi
    obtain ⟨name, hname⟩ := List.exists_mem_of_ne_nil _ hnames
    exact ⟨name, i, hi, hpath, hname⟩
  · rintro ⟨name, i, hi, hpath, -⟩
    exact ⟨i, hi, hpath⟩

end

/-- The imports of a plan are what the services need: no matter which file a declaration has been given, the
modules tell it. -/
theorem importsFrom_iff_needs (hemits : layout.emitsDeclarations)
    (hpaths : (clientPaths layout services).Nodup) (h : plan layout services = .ok files)
    (path path' : String) : ImportsFrom files path path' ↔ Needs layout services path path' := by
  constructor
  · rintro ⟨file, hfile, rfl, himports⟩
    obtain ⟨name, hname⟩ := (exists_importsName_iff hemits hpaths h hfile path').mp himports
    obtain ⟨hne, r, hr, -, hdeclared, hhome⟩ := (importsName_iff hemits hpaths h hfile path' name).mp hname
    refine ⟨hne, ?_⟩
    rcases (mem_references_iff hemits hpaths h hfile r).mp hr with ⟨d, hd, hpath, hrd⟩ | ⟨s, hs, hpath, hrs⟩
    · exact .inl ⟨d, hd, hpath, r, hrd, hdeclared, hhome⟩
    · exact .inr ⟨s, hs, hpath, r, hrs, hdeclared, hhome⟩
  · rintro ⟨hne, hneeds⟩
    -- In both cases the file at the path mentions a declared key whose home is another file.
    have hmention : ∃ file ∈ files, file.path = path ∧ ∃ r ∈ file.references,
        Declared services r.key ∧ homePath layout services r.modulePath = path' := by
      rcases hneeds with ⟨d, hd, rfl, r, hr, hrest⟩ | ⟨s, hs, rfl, r, hr, hrest⟩
      · obtain ⟨file, hfile, hmem⟩ := (mem_declarations_plan_iff hemits hpaths h d).mpr hd
        have hpath := (plan_atHome hemits h).home file hfile d hmem
        refine ⟨file, hfile, hpath, r, ?_, hrest⟩
        exact (mem_references_iff hemits hpaths h hfile r).mpr (.inl ⟨d, hd, hpath.symm, hr⟩)
      · obtain ⟨file, hfile, hpath, -⟩ :=
          (mem_clients_plan_iff hemits h _ s).mpr ⟨hs, exposedMethods_ne_nil hr, rfl⟩
        refine ⟨file, hfile, hpath, r, ?_, hrest⟩
        exact (mem_references_iff hemits hpaths h hfile r).mpr (.inr ⟨s, hs, hpath.symm, hr⟩)
    obtain ⟨file, hfile, rfl, r, hr, hdeclared, hhome⟩ := hmention
    have hname := (importsName_iff hemits hpaths h hfile path' r.name).mpr ⟨hne, r, hr, rfl, hdeclared, hhome⟩
    exact ⟨file, hfile, rfl, (exists_importsName_iff hemits hpaths h hfile path').mpr ⟨r.name, hname⟩⟩

/-! ## Circles -/

/-- Something leads back to itself in one step or more. -/
def Circular {α : Type} (leads : α → α → Prop) : Prop :=
  ∃ a, Relation.TransGen leads a a

/-- What is ranked in such a way that every step leads to a lower rank is not circular. -/
theorem not_circular_of_rank {α : Type} {leads : α → α → Prop} (rank : α → Nat)
    (h : ∀ a b, leads a b → rank b < rank a) : ¬Circular leads := by
  rintro ⟨a, ha⟩
  have hlower : ∀ b, Relation.TransGen leads a b → rank b < rank a := by
    intro b hb
    induction hb with
    | single hstep => exact h _ _ hstep
    | tail _ hstep ih => exact Nat.lt_trans (h _ _ hstep) ih
  exact Nat.lt_irrefl _ (hlower a ha)

end ServiceStubs
