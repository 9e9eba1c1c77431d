import Mathlib.Algebra.GroupWithZero.Nat
import Mathlib.Algebra.Order.BigOperators.Group.List
import Mathlib.Algebra.Order.Group.Nat
import Mathlib.Data.List.Nodup
import ServiceStubs.Proofs.Source.CanonicalPath
import ServiceStubs.Source.Library

/-!
# Libraries that serve a loader

A loader tells the text of each file. A library serves it if it has the modules of these files and is large
enough for all that they declare.

* `Library.Bounded` says that a library is large enough, and `Library.Bounded.length_le` bounds what its
  modules can declare;
* `Library.Serves` is the property, and `serves_ofFiles` says that the library of a list of files has it;
* `Library.Holds.imported` says that imports lead from modules of the library to modules of the library;
* `Library.Holds.eq` says that modules of the library are the same if their identities are.
-/

namespace ServiceStubs.Source

/-! ## Declared names -/

/-- The name that a statement declares. -/
def Item.declaredName? : Item → Option String
  | .definition found _ => some found.name
  | .exported found _ _ => some found.name
  | .exportedDefault (.classDefinition name _) _ _ => some (name.getD "default")
  | .exportedDefault (.interface body) _ _ => some body.name
  | _ => none

/-- The names that a module declares. -/
def Module.declaredNames (m : Module) : List String :=
  m.items.filterMap Item.declaredName?

theorem Item.declaredName?_of_definition? {item : Item} {name : String} (h : (item.definition? name).isSome) :
    item.declaredName? = some name := by
  unfold Item.definition? at h
  split at h
  all_goals first
    | cases h
    | split at h
      · rename_i hname
        exact congrArg some hname
      · cases h

theorem Module.mem_declaredNames {m : Module} {name : String} (h : (m.definition? name).isSome) :
    name ∈ m.declaredNames := by
  obtain ⟨item, hitem, hfound⟩ := List.findSome?_isSome_iff.mp h
  exact List.mem_filterMap.mpr ⟨item, hitem, item.declaredName?_of_definition? hfound⟩

/-! ## What can be declared -/

/-- The library has each module at its own path, and its size bounds the statements of all modules that it
has. -/
structure Library.Bounded (library : Library) : Prop where
  path_eq : ∀ path m, library.find? path = some (.ok m) → m.path = path
  size : ∀ ms : List Module, (ms.map Module.path).Nodup →
    (∀ m ∈ ms, library.find? m.path = some (.ok m)) → (ms.map fun m => m.items.length).sum ≤ library.size

/-- The library has the module, at its own path. -/
def Library.Has (library : Library) (m : Module) : Prop :=
  library.find? m.path = some (.ok m)

section

variable {library : Library} {m m' : Module}

/-- A library has one module at a path. -/
theorem Library.Has.eq_of_path (hm : library.Has m) (hm' : library.Has m') (hpath : m.path = m'.path) :
    m = m' := by
  unfold Library.Has at hm hm'
  rw [hpath, hm'] at hm
  cases hm
  rfl

/-- What a module imports from is a module that the library has. -/
theorem Library.Bounded.has_of_load? (h : library.Bounded) {specifier : String} {target : Module}
    (hload : library.load? m specifier = .ok (some target)) :
    library.Has target ∧ target.path ∈ candidates (joinSpecifier m.path specifier) := by
  unfold Library.load? at hload
  split at hload
  · split at hload
    · cases hload
    · rename_i found hfound
      cases hload
      obtain ⟨candidate, hcandidate, hfind⟩ := List.exists_of_findSome?_eq_some hfound
      have hpath : target.path = candidate := h.path_eq candidate target hfind
      unfold Library.Has
      rw [hpath]
      exact ⟨hfind, hcandidate⟩
    · cases hload
  · cases hload

theorem Library.find?_insert (library : Library) (m : Module) (path : String) :
    (library.insert m).find? path = if path = m.path then some (.ok m) else library.find? path := rfl

theorem Library.has_insert (library : Library) (m : Module) : (library.insert m).Has m := by
  unfold Library.Has
  rw [Library.find?_insert, if_pos rfl]

/-- A library stays bounded when a module is inserted. -/
theorem Library.Bounded.insert (h : library.Bounded) (m : Module) : (library.insert m).Bounded := by
  have hfind : ∀ {path m'}, path ≠ m.path → (library.insert m).find? path = some (.ok m') →
      library.find? path = some (.ok m') := by
    intro path m' hne hfound
    rwa [Library.find?_insert, if_neg hne] at hfound
  have hself : ∀ {m'}, (library.insert m).find? m.path = some (.ok m') → m' = m := by
    intro m' hfound
    rw [Library.find?_insert, if_pos rfl] at hfound
    cases hfound
    rfl
  constructor
  · intro path m' hfound
    by_cases hpath : path = m.path
    · subst hpath
      rw [hself hfound]
    · exact h.path_eq path m' (hfind hpath hfound)
  · intro ms hnodup hfound
    have hsize : (library.insert m).size = library.size + m.items.length := rfl
    rw [hsize]
    by_cases hmem : m.path ∈ ms.map Module.path
    · -- The module itself is one of them, and the library has all others.
      obtain ⟨m', hm', hpath⟩ := List.mem_map.mp hmem
      obtain rfl : m' = m := hself (hpath ▸ hfound m' hm')
      obtain ⟨before, after, rfl⟩ := List.append_of_mem hm'
      have hothers : (before ++ after).map Module.path = before.map Module.path ++ after.map Module.path :=
        List.map_append
      have hperm : ((before ++ m' :: after).map Module.path).Perm
          (m'.path :: (before ++ after).map Module.path) := by
        rw [← List.map_cons]
        exact List.perm_middle.map _
      obtain ⟨hnew, hrest⟩ := List.nodup_cons.mp (hperm.nodup_iff.mp hnodup)
      have hle := h.size (before ++ after) hrest fun k hk => by
        refine hfind (fun heq => hnew (heq ▸ List.mem_map_of_mem hk)) (hfound k ?_)
        rcases List.mem_append.mp hk with hk | hk
        · exact List.mem_append_left _ hk
        · exact List.mem_append_right _ (List.mem_cons_of_mem _ hk)
      simp only [List.map_append, List.map_cons, List.sum_append, List.sum_cons] at hle ⊢
      omega
    · have hle := h.size ms hnodup fun k hk =>
        hfind (fun heq => hmem (heq ▸ List.mem_map_of_mem hk)) (hfound k hk)
      omega

/-- Each key belongs to some module of a list in which no module is there twice. -/
theorem exists_owners {keys : List DeclKey}
    (howned : ∀ key ∈ keys, ∃ owner, library.Has owner ∧ (owner.definition? key.name).isSome ∧
      owner.modulePath = key.modulePath) :
    ∃ owners : List Module, (owners.map Module.path).Nodup ∧ (∀ m ∈ owners, library.Has m) ∧
      ∀ key ∈ keys, ∃ owner ∈ owners, (owner.definition? key.name).isSome ∧
        owner.modulePath = key.modulePath := by
  induction keys with
  | nil => exact ⟨[], List.nodup_nil, by simp, by simp⟩
  | cons key rest ih =>
    rw [List.forall_mem_cons] at howned
    obtain ⟨owners, hnodup, hhas, hrest⟩ := ih howned.2
    obtain ⟨owner, howner, hdeclared, hpath⟩ := howned.1
    by_cases hknown : owner.path ∈ owners.map Module.path
    · -- It is the module that is in the list, since the library has one module at a path.
      obtain ⟨known, hmem, heq⟩ := List.mem_map.mp hknown
      obtain rfl : known = owner := (hhas known hmem).eq_of_path howner heq
      exact ⟨owners, hnodup, hhas, List.forall_mem_cons.mpr ⟨⟨known, hmem, hdeclared, hpath⟩, hrest⟩⟩
    · refine ⟨owner :: owners, List.nodup_cons.mpr ⟨hknown, hnodup⟩,
        List.forall_mem_cons.mpr ⟨howner, hhas⟩, List.forall_mem_cons.mpr ⟨?_, ?_⟩⟩
      · exact ⟨owner, List.mem_cons_self, hdeclared, hpath⟩
      · intro k hk
        obtain ⟨known, hmem, hknown⟩ := hrest k hk
        exact ⟨known, List.mem_cons_of_mem owner hmem, hknown⟩

/-- There are no more keys of declarations in the library than its size says. -/
theorem Library.Bounded.length_le (h : library.Bounded) {keys : List DeclKey} (hnodup : keys.Nodup)
    (howned : ∀ key ∈ keys, ∃ owner, library.Has owner ∧ (owner.definition? key.name).isSome ∧
      owner.modulePath = key.modulePath) :
    keys.length ≤ library.size := by
  obtain ⟨owners, hdistinct, hhas, hkeys⟩ := exists_owners howned
  have hsubset : keys ⊆ owners.flatMap fun m => m.declaredNames.map fun name => ⟨name, m.modulePath⟩ := by
    intro key hkey
    obtain ⟨owner, howner, hdeclared, hpath⟩ := hkeys key hkey
    refine List.mem_flatMap.mpr ⟨owner, howner, List.mem_map.mpr ⟨key.name, ?_, ?_⟩⟩
    · exact Module.mem_declaredNames hdeclared
    · rw [hpath]
  calc keys.length
      ≤ (owners.flatMap fun m => m.declaredNames.map fun name => (⟨name, m.modulePath⟩ : DeclKey)).length :=
        (List.subperm_of_subset hnodup hsubset).length_le
    _ = (owners.map fun m => m.declaredNames.length).sum := by simp [List.length_flatMap]
    _ ≤ (owners.map fun m => m.items.length).sum :=
        List.sum_le_sum fun m _ => List.length_filterMap_le Item.declaredName? m.items
    _ ≤ library.size := h.size owners hdistinct hhas

end

/-! ## Loaders -/

theorem Module.path_read {path text : String} {m : Module} (h : Module.read path text = .ok m) :
    m.path = path := by
  unfold Module.read at h
  split at h
  · cases h
  · split at h
    · cases h
      rfl
    · cases h

/-- The library has the modules of the files that can be loaded, and its size bounds the statements of any
of them. -/
structure Library.Serves (library : Library) (load : String → Option String) : Prop where
  find : ∀ path, library.find? path = (load path).map (Module.read path)
  size : ∀ ms : List Module, (ms.map Module.path).Nodup →
    (∀ m ∈ ms, library.find? m.path = some (.ok m)) → (ms.map fun m => m.items.length).sum ≤ library.size

/-- No two files that imports can lead to have the same identity. -/
def Identified (load : String → Option String) : Prop :=
  ∀ path path', Canonical path → Canonical path' → (load path).isSome → (load path').isSome →
    modulePathOf path = modulePathOf path' → path = path'

/-- The module is the one that the library has at its path, and the path is canonical. -/
structure Library.Holds (library : Library) (m : Module) : Prop where
  canonical : Canonical m.path
  found : library.Has m

variable {library : Library} {load : String → Option String} {m m' : Module}

theorem Library.Serves.bounded (h : library.Serves load) : library.Bounded := by
  refine ⟨?_, h.size⟩
  intro path m hfind
  rw [h.find, Option.map_eq_some_iff] at hfind
  obtain ⟨text, -, hread⟩ := hfind
  exact Module.path_read hread

theorem Library.Holds.isSome_load (hm : library.Holds m) (h : library.Serves load) : (load m.path).isSome := by
  have hfind := hm.found
  unfold Library.Has at hfind
  rw [h.find, Option.map_eq_some_iff] at hfind
  obtain ⟨text, htext, -⟩ := hfind
  rw [htext]
  rfl

/-- Modules of the library that have the same identity are the same. -/
theorem Library.Holds.eq (h : library.Serves load) (hload : Identified load) (hm : library.Holds m)
    (hm' : library.Holds m') (hpath : m.modulePath = m'.modulePath) : m = m' :=
  hm.found.eq_of_path hm'.found <|
    hload m.path m'.path hm.canonical hm'.canonical (hm.isSome_load h) (hm'.isSome_load h) hpath

/-- What a module imports from is a module of the library again. -/
theorem Library.Holds.imported (h : library.Serves load) (hm : library.Holds m) {specifier : String}
    {target : Module} (hload : library.load? m specifier = .ok (some target)) : library.Holds target := by
  obtain ⟨hhas, hcandidate⟩ := h.bounded.has_of_load? hload
  exact ⟨canonical_of_mem_candidates (canonical_joinSpecifier hm.canonical specifier) hcandidate, hhas⟩

/-! ## Lists of files -/

theorem lookup_map_read (files : List (String × String)) (path : String) :
    (files.map fun (path, text) => (path, Module.read path text)).lookup path =
      (files.lookup path).map (Module.read path) := by
  induction files with
  | nil => rfl
  | cons file rest ih =>
    obtain ⟨p, text⟩ := file
    rw [List.map_cons, List.lookup_cons, List.lookup_cons]
    by_cases hpath : path = p
    · simp [hpath]
    · simp [beq_false_of_ne hpath, ih]

/-- The library of a list of files serves the loader that finds the first of them. -/
theorem serves_ofFiles (files : List (String × String)) :
    (Library.ofFiles files).Serves fun path => files.lookup path := by
  refine ⟨lookup_map_read files, ?_⟩
  intro ms hnodup hfound
  unfold Library.ofFiles Library.ofModules at hfound ⊢
  dsimp only at hfound ⊢
  generalize files.map (fun (path, text) => (path, Module.read path text)) = modules at hfound ⊢
  have hsize : modules.foldl (fun total entry => total + statementCount entry.2) 0 =
      (modules.map fun entry => statementCount entry.2).sum := by
    rw [List.sum_eq_foldl, List.foldl_map]
  -- Modules with distinct paths stand in distinct places of the list.
  have hentries : (ms.map fun m => (m.path, (.ok m : Except Error Module))).Nodup := by
    refine List.Nodup.of_map Prod.fst ?_
    rw [List.map_map]
    exact hnodup
  have hsubset : (ms.map fun m => (m.path, (.ok m : Except Error Module))) ⊆ modules := by
    intro entry hentry
    obtain ⟨m, hm, rfl⟩ := List.mem_map.mp hentry
    obtain ⟨before, after, heq, -⟩ := List.lookup_eq_some_iff.mp (hfound m hm)
    rw [heq]
    simp
  obtain ⟨part, hperm, hsub⟩ := List.subperm_of_subset hentries hsubset
  calc (ms.map fun m => m.items.length).sum
      = ((ms.map fun m => (m.path, (.ok m : Except Error Module))).map fun e => statementCount e.2).sum := by
        rw [List.map_map]
        rfl
    _ = (part.map fun entry => statementCount entry.2).sum := ((hperm.map _).sum_eq).symm
    _ ≤ (modules.map fun entry => statementCount entry.2).sum :=
        (hsub.map _).sum_le_sum fun _ _ => Nat.zero_le _
    _ = _ := hsize.symm

end ServiceStubs.Source
