import Mathlib.Data.List.Nodup
import ServiceStubs.Proofs.Plan.Reachability

/-!
# Owners of declarations

Declarations are given their places one by one. Each goes into a file that is there already or opens a new
one, at a path that no file has; nothing else changes.

* `placeDeclaration_cases` says what one step can do;
* `Placed` is what holds after every step, and `ownedFiles_placed` what holds at the end;
* `ownerOf?_spec` says that the owner of a key is found.
-/

namespace ServiceStubs

/-! ## One step -/

theorem lastIdx?_eq_some {α : Type} {test : α → Bool} {xs : List α} {i : Nat}
    (h : lastIdx? test xs = some i) : ∃ hi : i < xs.length, test xs[i] := by
  unfold lastIdx? at h
  obtain ⟨j, hj, rfl⟩ := Option.map_eq_some_iff.mp h
  obtain ⟨hlt, htest, -⟩ := List.findIdx?_eq_some_iff_getElem.mp hj
  rw [List.getElem_reverse] at htest
  rw [List.length_reverse] at hlt
  exact ⟨by omega, htest⟩

theorem lastIdx?_eq_none_iff {α : Type} {test : α → Bool} {xs : List α} :
    lastIdx? test xs = none ↔ ∀ x ∈ xs, test x = false := by
  unfold lastIdx?
  rw [Option.map_eq_none_iff, List.findIdx?_eq_none_iff]
  simp

/-- The file that is found for a declaration is the client of its source or stands at the path for its
module. -/
theorem ownerFor?_eq_some {layout : Layout} {files : List FilePlan} {d : Declaration} {i : Nat}
    (h : ownerFor? layout files d = some i) :
    ∃ f, files[i]? = some f ∧ (f.isClientOf d.modulePath ∨ f.path = layout.modelPath d.modulePath) := by
  unfold ownerFor? at h
  split at h
  · rename_i j hj
    cases h
    obtain ⟨hlt, hclient, -⟩ := List.findIdx?_eq_some_iff_getElem.mp hj
    exact ⟨_, List.getElem?_eq_getElem hlt, .inl hclient⟩
  · obtain ⟨hlt, htest⟩ := lastIdx?_eq_some h
    exact ⟨_, List.getElem?_eq_getElem hlt, .inr (by simpa using htest)⟩

/-- If no file is found for a declaration, none is the client of its source, and none stands at the path for
its module. -/
theorem ownerFor?_eq_none {layout : Layout} {files : List FilePlan} {d : Declaration}
    (h : ownerFor? layout files d = none) :
    ∀ f ∈ files, ¬f.isClientOf d.modulePath ∧ f.path ≠ layout.modelPath d.modulePath := by
  unfold ownerFor? at h
  split at h
  · cases h
  · rename_i hclients
    intro f hf
    refine ⟨?_, ?_⟩
    · simpa using List.findIdx?_eq_none_iff.mp hclients f hf
    · simpa using lastIdx?_eq_none_iff.mp h f hf

/-- The file with one more declaration. -/
def FilePlan.withDeclaration (f : FilePlan) (d : Declaration) : FilePlan :=
  { f with declarations := f.declarations ++ [d] }

/-- A declaration is added to the client of its source or the file at the path for its module, or to a new
file at that path. -/
theorem placeDeclaration_cases (layout : Layout) (files : List FilePlan) (d : Declaration) :
    (∃ before f after, files = before ++ f :: after ∧
        (f.isClientOf d.modulePath ∨ f.path = layout.modelPath d.modulePath) ∧
        placeDeclaration layout files d = before ++ f.withDeclaration d :: after) ∨
      ((∀ f ∈ files, ¬f.isClientOf d.modulePath ∧ f.path ≠ layout.modelPath d.modulePath) ∧
        placeDeclaration layout files d = files ++ [⟨layout.modelPath d.modulePath, none, [d], []⟩]) := by
  unfold placeDeclaration
  rcases howner : ownerFor? layout files d with _ | i
  · exact .inr ⟨ownerFor?_eq_none howner, rfl⟩
  · obtain ⟨f, hf, hfits⟩ := ownerFor?_eq_some howner
    obtain ⟨hlt, rfl⟩ := List.getElem?_eq_some_iff.mp hf
    refine .inl ⟨files.take i, files[i], files.drop (i + 1), ?_, hfits, ?_⟩
    · rw [List.getElem_cons_drop, List.take_append_drop]
    · exact List.modify_eq_take_cons_drop hlt

/-- A step leaves the paths as they are, or adds the one for the module of the declaration, which is new then. -/
theorem paths_placeDeclaration (layout : Layout) (files : List FilePlan) (d : Declaration) :
    ((∃ f ∈ files, f.isClientOf d.modulePath ∨ f.path = layout.modelPath d.modulePath) ∧
        (placeDeclaration layout files d).map FilePlan.path = files.map FilePlan.path) ∨
      ((∀ f ∈ files, ¬f.isClientOf d.modulePath ∧ f.path ≠ layout.modelPath d.modulePath) ∧
        (placeDeclaration layout files d).map FilePlan.path =
          files.map FilePlan.path ++ [layout.modelPath d.modulePath]) := by
  rcases placeDeclaration_cases layout files d with ⟨before, f, after, rfl, hfits, heq⟩ | ⟨hnew, heq⟩
  · refine .inl ⟨⟨f, List.mem_append_right _ List.mem_cons_self, hfits⟩, ?_⟩
    rw [heq]
    simp [FilePlan.withDeclaration]
  · refine .inr ⟨hnew, ?_⟩
    rw [heq, List.map_append, List.map_singleton]

/-! ## All steps -/

/-- The client files with their services, as they are planned before any declaration. -/
def clientsOf (files : List FilePlan) : List (String × Service) :=
  files.filterMap fun f => f.service.map fun s => (f.path, s)

theorem clientsOf_clientFiles (layout : Layout) (services : List Service) :
    clientsOf (clientFiles layout services) =
      (services.filter fun s => !s.api.exposedMethods.isEmpty).map
        fun s => (layout.clientPath s.api.name, s) := by
  unfold clientsOf clientFiles
  rw [List.filterMap_map, ← List.filterMap_eq_map]
  rfl

theorem clientsOf_placeDeclaration (layout : Layout) (files : List FilePlan) (d : Declaration) :
    clientsOf (placeDeclaration layout files d) = clientsOf files := by
  rcases placeDeclaration_cases layout files d with ⟨before, f, after, rfl, -, heq⟩ | ⟨-, heq⟩
  · rw [heq]
    simp [clientsOf, FilePlan.withDeclaration, List.filterMap_cons]
  · rw [heq]
    simp [clientsOf]

theorem declarations_placeDeclaration (layout : Layout) (files : List FilePlan) (d : Declaration) :
    ((placeDeclaration layout files d).flatMap FilePlan.declarations).Perm
      (files.flatMap FilePlan.declarations ++ [d]) := by
  rcases placeDeclaration_cases layout files d with ⟨before, f, after, rfl, -, heq⟩ | ⟨-, heq⟩
  · rw [heq]
    simp only [List.flatMap_append, List.flatMap_cons, FilePlan.withDeclaration]
    calc before.flatMap FilePlan.declarations ++ (f.declarations ++ [d] ++ after.flatMap FilePlan.declarations)
        = (before.flatMap FilePlan.declarations ++ f.declarations) ++
            d :: after.flatMap FilePlan.declarations := by simp
      List.Perm _ (d :: (before.flatMap FilePlan.declarations ++
            (f.declarations ++ after.flatMap FilePlan.declarations))) := by
          rw [← List.append_assoc]
          exact List.perm_middle
      List.Perm _ (before.flatMap FilePlan.declarations ++
            (f.declarations ++ after.flatMap FilePlan.declarations) ++ [d]) :=
          (List.perm_append_singleton d _).symm
  · rw [heq]
    simp

/-- What holds of the files when the declarations `placed` have got their places. No path is used twice,
clients stay what they are, and each declaration has one place. -/
structure Placed (layout : Layout) (services : List Service) (placed : List Declaration)
    (files : List FilePlan) : Prop where
  distinct : (files.map FilePlan.path).Nodup
  clients : clientsOf files = clientsOf (clientFiles layout services)
  owned : (files.flatMap FilePlan.declarations).Perm placed

theorem placeDeclaration_placed {layout : Layout} {services : List Service} {placed : List Declaration}
    {files : List FilePlan} (h : Placed layout services placed files) (d : Declaration) :
    Placed layout services (placed ++ [d]) (placeDeclaration layout files d) := by
  refine ⟨?_, (clientsOf_placeDeclaration layout files d).trans h.clients,
    (declarations_placeDeclaration layout files d).trans (h.owned.append_right [d])⟩
  rcases paths_placeDeclaration layout files d with ⟨-, heq⟩ | ⟨hnew, heq⟩
  · exact heq ▸ h.distinct
  · rw [heq, List.nodup_append]
    refine ⟨h.distinct, by simp, ?_⟩
    intro path hpath path' hpath'
    obtain ⟨f, hf, rfl⟩ := List.mem_map.mp hpath
    rw [List.mem_singleton] at hpath'
    rw [hpath']
    exact (hnew f hf).2

/-- What every step preserves holds when all declarations have got their places. -/
theorem foldl_placeDeclaration {layout : Layout} (holds : List Declaration → List FilePlan → Prop)
    (hstep : ∀ placed files d, holds placed files → holds (placed ++ [d]) (placeDeclaration layout files d))
    (ds : List Declaration) {placed : List Declaration} {files : List FilePlan} (h : holds placed files) :
    holds (placed ++ ds) (ds.foldl (placeDeclaration layout) files) := by
  induction ds generalizing placed files with
  | nil => simpa using h
  | cons d rest ih =>
    have hrest := ih (hstep placed files d h)
    rwa [List.append_assoc] at hrest

/-- The paths of the clients. -/
def clientPaths (layout : Layout) (services : List Service) : List String :=
  (services.filter fun s => !s.api.exposedMethods.isEmpty).map fun s => layout.clientPath s.api.name

theorem clientFiles_placed {layout : Layout} {services : List Service}
    (h : (clientPaths layout services).Nodup) :
    Placed layout services [] (clientFiles layout services) := by
  refine ⟨?_, rfl, ?_⟩
  · unfold clientFiles
    rw [List.map_map]
    exact h
  · simp [clientFiles, List.flatMap_map]

theorem ownedFiles_placed {layout : Layout} {services : List Service}
    (h : (clientPaths layout services).Nodup) :
    Placed layout services (plannedDeclarations services) (ownedFiles layout services) :=
  foldl_placeDeclaration (Placed layout services) (fun _ _ d hplaced => placeDeclaration_placed hplaced d)
    (plannedDeclarations services) (clientFiles_placed h)

/-! ## Where files are -/

/-- No service with this source has a client. -/
def Apart (services : List Service) (modulePath : String) : Prop :=
  ∀ s ∈ services, s.api.exposedMethods ≠ [] → s.modulePath ≠ modulePath

theorem apart_iff {layout : Layout} {services : List Service} {files : List FilePlan}
    (h : clientsOf files = clientsOf (clientFiles layout services)) (modulePath : String) :
    Apart services modulePath ↔ ∀ f ∈ files, ¬f.isClientOf modulePath := by
  have hclients : ∀ fs : List FilePlan, (∀ f ∈ fs, ¬f.isClientOf modulePath) ↔
      ∀ c ∈ clientsOf fs, c.2.modulePath ≠ modulePath := by
    intro fs
    simp only [clientsOf, List.mem_filterMap, Option.map_eq_some_iff, FilePlan.isClientOf]
    constructor
    · rintro hall c ⟨f, hf, s, hs, rfl⟩ heq
      have hpath : s.modulePath = modulePath := heq
      exact hall f hf (by simp [hs, hpath])
    · intro hall f hf hany
      obtain ⟨s, hs, heq⟩ := (Option.any_eq_true _ _).mp hany
      exact hall (f.path, s) ⟨f, hf, s, hs, rfl⟩ (by simpa using heq)
  rw [hclients, h, clientsOf_clientFiles, List.forall_mem_map]
  unfold Apart
  simp

/-- Where the files are when the declarations `placed` have got their places: those that are no clients are
at the paths for the modules of declarations that no client takes. -/
structure Located (layout : Layout) (services : List Service) (placed : List Declaration)
    (files : List FilePlan) : Prop where
  clients : clientsOf files = clientsOf (clientFiles layout services)
  known : ∀ f ∈ files, f.path ∈ clientPaths layout services ∨
    ∃ d ∈ placed, Apart services d.modulePath ∧ f.path = layout.modelPath d.modulePath
  found : ∀ d ∈ placed, Apart services d.modulePath →
    ∃ f ∈ files, f.path = layout.modelPath d.modulePath

theorem placeDeclaration_located {layout : Layout} {services : List Service} {placed : List Declaration}
    {files : List FilePlan} (h : Located layout services placed files) (d : Declaration) :
    Located layout services (placed ++ [d]) (placeDeclaration layout files d) := by
  refine ⟨(clientsOf_placeDeclaration layout files d).trans h.clients, ?_, ?_⟩
  · intro g hg
    have hpath : g.path ∈ (placeDeclaration layout files d).map FilePlan.path := List.mem_map_of_mem hg
    have hknown : g.path ∈ files.map FilePlan.path → g.path ∈ clientPaths layout services ∨
        ∃ d' ∈ placed ++ [d], Apart services d'.modulePath ∧ g.path = layout.modelPath d'.modulePath := by
      intro hold
      obtain ⟨f, hf, heq⟩ := List.mem_map.mp hold
      rw [← heq]
      refine (h.known f hf).imp_right ?_
      rintro ⟨d', hd', hrest⟩
      exact ⟨d', List.mem_append_left _ hd', hrest⟩
    rcases paths_placeDeclaration layout files d with ⟨-, heq⟩ | ⟨hnew, heq⟩
    · exact hknown (heq ▸ hpath)
    · rw [heq, List.mem_append, List.mem_singleton] at hpath
      rcases hpath with hold | hpath
      · exact hknown hold
      · exact .inr ⟨d, by simp, (apart_iff h.clients _).mpr fun f hf => (hnew f hf).1, hpath⟩
  · intro d' hd' hapart
    have hstays : files.map FilePlan.path ⊆ (placeDeclaration layout files d).map FilePlan.path := by
      rcases paths_placeDeclaration layout files d with ⟨-, heq⟩ | ⟨-, heq⟩
      · exact heq ▸ List.Subset.refl _
      · exact heq ▸ List.subset_append_left _ _
    refine List.mem_map.mp (?_ : layout.modelPath d'.modulePath ∈ (placeDeclaration layout files d).map FilePlan.path)
    rcases List.mem_append.mp hd' with hd' | hd'
    · obtain ⟨f, hf, hpath⟩ := h.found d' hd' hapart
      exact hstays (hpath ▸ List.mem_map_of_mem hf)
    · rw [List.mem_singleton] at hd'
      subst hd'
      rcases paths_placeDeclaration layout files d' with ⟨⟨f, hf, hfits⟩, heq⟩ | ⟨-, heq⟩
      · -- No client takes the declaration, so that the file that does is the one at the path for its module.
        have hclient := (apart_iff h.clients _).mp hapart f hf
        exact hstays (hfits.resolve_left hclient ▸ List.mem_map_of_mem hf)
      · rw [heq]
        exact List.mem_append_right _ (List.mem_singleton_self _)

theorem ownedFiles_located (layout : Layout) (services : List Service) :
    Located layout services (plannedDeclarations services) (ownedFiles layout services) := by
  have hclients : Located layout services [] (clientFiles layout services) := by
    refine ⟨rfl, ?_, by simp⟩
    intro f hf
    obtain ⟨s, hs, rfl⟩ := List.mem_map.mp hf
    exact .inl (List.mem_map.mpr ⟨s, hs, rfl⟩)
  exact foldl_placeDeclaration (Located layout services)
    (fun _ _ d hlocated => placeDeclaration_located hlocated d) (plannedDeclarations services) hclients

/-! ## Who owns a key -/

/-- The file owns the declaration of a key. -/
def FilePlan.Owns (file : FilePlan) (key : DeclKey) : Prop :=
  key ∈ file.declarations.map Declaration.key

/-- The keys that some files own, as often as they own them. -/
def ownedKeys (files : List FilePlan) : List DeclKey :=
  files.flatMap fun f => f.declarations.map Declaration.key

theorem ownedKeys_perm {layout : Layout} {services : List Service}
    (h : (clientPaths layout services).Nodup) :
    (ownedKeys (ownedFiles layout services)).Perm ((plannedDeclarations services).map Declaration.key) := by
  have hmap : ownedKeys (ownedFiles layout services) =
      ((ownedFiles layout services).flatMap FilePlan.declarations).map Declaration.key := by
    rw [ownedKeys, List.map_flatMap]
  rw [hmap]
  exact (ownedFiles_placed h).owned.map _

theorem mem_ownedKeys {layout : Layout} {services : List Service}
    (h : (clientPaths layout services).Nodup) (key : DeclKey) :
    key ∈ ownedKeys (ownedFiles layout services) ↔ Reaches services key ∧ Declared services key := by
  rw [(ownedKeys_perm h).mem_iff, List.mem_map, declared_iff]
  constructor
  · rintro ⟨d, hd, rfl⟩
    obtain ⟨hreach, hfind⟩ := (mem_plannedDeclarations_iff services d).mp hd
    exact ⟨hreach, by rw [hfind]; rfl⟩
  · rintro ⟨hreach, hdeclared⟩
    obtain ⟨d, hfind⟩ := Option.isSome_iff_exists.mp hdeclared
    have heq := key_eq_of_findDeclaration hfind
    subst heq
    exact ⟨d, (mem_plannedDeclarations_iff services d).mpr ⟨hreach, hfind⟩, rfl⟩

theorem nodup_ownedKeys {layout : Layout} {services : List Service}
    (h : (clientPaths layout services).Nodup) : (ownedKeys (ownedFiles layout services)).Nodup :=
  (ownedKeys_perm h).nodup_iff.mpr (nodup_plannedDeclarations services)

/-- Keys that some file owns have an owner, and the owner owns them. -/
theorem ownerOf?_spec {files : List FilePlan} {key : DeclKey} (h : key ∈ ownedKeys files) :
    ∃ i, ∃ hi : i < files.length, ownerOf? files key = some i ∧ files[i].Owns key := by
  obtain ⟨f, hf, hkey⟩ := List.mem_flatMap.mp h
  have htest : (files.findIdx? fun f => f.declarations.any fun d => d.key = key).isSome := by
    rw [List.findIdx?_isSome, List.any_eq_true]
    exact ⟨f, hf, by simpa using hkey⟩
  obtain ⟨i, hfind⟩ := Option.isSome_iff_exists.mp htest
  obtain ⟨hi, htrue, -⟩ := List.findIdx?_eq_some_iff_getElem.mp hfind
  refine ⟨i, hi, hfind, ?_⟩
  simpa [FilePlan.Owns] using htrue

theorem owns_of_ownerOf? {files : List FilePlan} {key : DeclKey} {i : Nat} (h : ownerOf? files key = some i) :
    ∃ f, files[i]? = some f ∧ f.Owns key := by
  obtain ⟨hi, htrue, -⟩ := List.findIdx?_eq_some_iff_getElem.mp h
  refine ⟨files[i], List.getElem?_eq_getElem hi, ?_⟩
  simpa [FilePlan.Owns] using htrue

/-- Two entries of a list whose members are pairwise related, but not to each other, are the same. -/
theorem eq_of_pairwise {α : Type} {R : α → α → Prop} {xs : List α} (h : xs.Pairwise R) {i j : Nat} {x y : α}
    (hx : xs[i]? = some x) (hy : xs[j]? = some y) (hxy : ¬R x y) (hyx : ¬R y x) : i = j := by
  obtain ⟨hi, rfl⟩ := List.getElem?_eq_some_iff.mp hx
  obtain ⟨hj, rfl⟩ := List.getElem?_eq_some_iff.mp hy
  rw [List.pairwise_iff_getElem] at h
  rcases Nat.lt_trichotomy i j with hlt | heq | hlt
  · exact absurd (h i j hi hj hlt) hxy
  · exact heq
  · exact absurd (h j i hj hi hlt) hyx

/-- If no key is owned twice, two files that own a key are the same. -/
theorem eq_of_owns {files : List FilePlan} (h : (ownedKeys files).Nodup) {key : DeclKey} {i j : Nat}
    {f g : FilePlan} (hf : files[i]? = some f) (hg : files[j]? = some g) (hfkey : f.Owns key)
    (hgkey : g.Owns key) : i = j :=
  eq_of_pairwise (List.nodup_flatMap.mp h).2 hf hg (fun hdisjoint => hdisjoint hfkey hgkey)
    (fun hdisjoint => hdisjoint hgkey hfkey)

/-- If no path is used twice, two files with one path are the same. -/
theorem eq_of_path_eq {files : List FilePlan} (h : (files.map FilePlan.path).Nodup) {i j : Nat}
    {f g : FilePlan} (hf : files[i]? = some f) (hg : files[j]? = some g) (heq : f.path = g.path) : i = j :=
  eq_of_pairwise (List.pairwise_map.mp h) hf hg (fun hne => hne heq) (fun hne => hne heq.symm)

end ServiceStubs
