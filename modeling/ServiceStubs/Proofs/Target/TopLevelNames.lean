import Mathlib.Data.List.Pairwise
import ServiceStubs.Proofs.Target.PythonImports

/-!
# Names at the top of a client

The client for a service introduces names in four ways: it imports the runtime, it imports declarations of other
files, it holds declarations of its own, and it defines its class. Declarations are told apart from each other before
they are planned. The names of the class and of the runtime are compared with none of them.

* `clientText_eq` says which statements the clients of TypeScript, Python and Dart are made of;
* `nodup_topLevelNames_iff` says when the names of one planned client are distinct;
* `InScope` says by the services alone which declarations a client holds or imports, and `KeepsApart` when their
  names, that of the class and that of the runtime are different;
* `generateTarget_topLevelNames_iff` concludes for every client that is generated.
-/

namespace ServiceStubs

/-! ## Statements of a client -/

/-- How the clients of a target introduce names: by import statements, declarations, and a class. -/
structure ClientSyntax where
  banner : List String
  /-- The statement in the file at a path that imports from another file. -/
  importLine : String → Import → String
  gap : List String
  /-- The lines with the text of a declaration. -/
  declarationLines : String → List String
  /-- The lines of the class, and all that is behind it. -/
  classLines : ServiceClass → List String

/-- The text of the client for a service, given the texts of its declarations. The runtime is imported first. -/
def ClientSyntax.text (x : ClientSyntax) (runtimePath : String) (s : Service) (file : FilePlan)
    (declarations : List String) : String :=
  unlines (x.banner ++ (⟨runtimePath, ["Remote"]⟩ :: file.imports).map (x.importLine file.path) ++ x.gap ++
    declarations.flatMap x.declarationLines ++ x.classLines s.api)

/-- The syntax of the targets whose clients import from other files. -/
def Target.clientSyntax? : Target → Option ClientSyntax
  | .typeScript => some
    { banner := TypeScript.banner ++ [""]
      importLine := TypeScript.importLine
      gap := [""]
      declarationLines := fun d => [d, ""]
      classLines := fun c =>
        docLines c.docs .block "" ++
        ["export class " ++ c.name ++ " \x7b",
          "  static remote = new Remote(\"" ++ remoteUrlPlaceholder ++ "\");",
          ""] ++
        [""].intercalate (c.exposedMethods.map (TypeScript.methodLines c.name)) ++
        ["\x7d", "", "export \x7b Remote \x7d;"] }
  | .python => some
    { banner := Python.preamble ++ [""]
      importLine := Python.importLine
      gap := []
      declarationLines := fun d => ["", "", d]
      classLines := fun c =>
        ["", "", "class " ++ c.name ++ ":"] ++
        docLines c.docs .docstring "    " ++
        ["    remote = Remote(\"" ++ remoteUrlPlaceholder ++ "\")"] ++
        c.exposedMethods.flatMap (Python.methodLines c.name) ++
        ["", "", "__all__ = [\"" ++ c.name ++ "\", \"Remote\"]"] }
  | .dart => some
    { banner := Dart.banner ++ [""]
      importLine := fun path i => Dart.importLine path i.file
      gap := []
      declarationLines := fun d => ["", d]
      classLines := fun c =>
        [""] ++ docLines c.docs .tripleSlash "" ++
        ["class " ++ c.name ++ " \x7b",
          "  static final Remote remote = Remote(\"" ++ remoteUrlPlaceholder ++ "\");"] ++
        c.exposedMethods.flatMap (Dart.methodLines c.name) ++
        ["\x7d"] }
  | .javaScript | .swift | .kotlin | .go => none

variable {target : Target} {x : ClientSyntax}

theorem emitsDeclarations_of_clientSyntax? (hx : target.clientSyntax? = some x) :
    target.emitter.emitsDeclarations := by
  cases target <;> first | rfl | cases hx

/-- A client is its statements, one after the other: the runtime is imported like everything else. -/
theorem clientText_eq (hx : target.clientSyntax? = some x) {s : Service} {file : FilePlan} {m : Metadata}
    {text : String} (h : target.emitter.clientText s file m = .ok text) :
    ∃ declarations, file.declarations.mapM target.emitter.declarationText = .ok declarations ∧
      text = x.text target.emitter.runtimePath s file declarations := by
  -- Three targets import what they do not declare themselves.
  cases target with
  | typeScript =>
    cases hx
    obtain ⟨declarations, hdeclarations, h⟩ := bind_eq_ok_iff.mp h
    cases h
    refine ⟨declarations, hdeclarations, ?_⟩
    simp [ClientSyntax.text, TypeScript.importLine, commaSeparated, Target.emitter, TypeScript.emitter]
  | python =>
    cases hx
    obtain ⟨declarations, hdeclarations, h⟩ := bind_eq_ok_iff.mp h
    cases h
    have himport : ∀ front : String, front ++ " import " ++ "Remote" = front ++ " import Remote" := by
      intro front
      rw [String.append_assoc]
      rfl
    refine ⟨declarations, hdeclarations, ?_⟩
    simp [ClientSyntax.text, Python.importLine, commaSeparated, Target.emitter, Python.emitter, himport]
  | dart =>
    cases hx
    obtain ⟨declarations, hdeclarations, h⟩ := bind_eq_ok_iff.mp h
    cases h
    refine ⟨declarations, hdeclarations, ?_⟩
    simp [ClientSyntax.text, Target.emitter, Dart.emitter]
  | javaScript => cases hx
  | swift => cases hx
  | kotlin => cases hx
  | go => cases hx

/-! ## Names of one client -/

/-- The names that a client introduces: those of the class, the runtime, its declarations and its imports. -/
def topLevelNames (s : Service) (file : FilePlan) : List String :=
  s.api.name :: "Remote" :: (file.declarations.map Declaration.name ++ file.imports.flatMap Import.names)

/-- Imports of different files, none of which imports a name twice, import no name twice if and only if no two of
them share a name. -/
theorem nodup_names_iff {imports : List Import} (hfiles : imports.Pairwise fun i j => i.file ≠ j.file)
    (hnames : ∀ i ∈ imports, i.names.Nodup) :
    (imports.flatMap Import.names).Nodup ↔
      ∀ i ∈ imports, ∀ j ∈ imports, i.file ≠ j.file → i.names.Disjoint j.names := by
  rw [List.nodup_flatMap]
  constructor
  · rintro ⟨-, hdisjoint⟩ i hi j hj hfile
    have hsymm : Std.Symm (Function.onFun List.Disjoint Import.names) := ⟨fun _ _ h => List.disjoint_symm h⟩
    refine hdisjoint.forall hi hj ?_
    rintro rfl
    exact hfile rfl
  · intro h
    exact ⟨hnames, hfiles.imp_of_mem fun hi hj hne => h _ hi _ hj hne⟩

/-- The names of a client are distinct if and only if that of its class is not that of the runtime, none of the others
is one of these two, and the others are distinct, held or imported. -/
theorem nodup_topLevelNames_iff {s : Service} {file : FilePlan}
    (hkeys : (file.declarations.map Declaration.key).Nodup)
    (hfiles : file.imports.Pairwise fun i j => i.file ≠ j.file) (hnames : ∀ i ∈ file.imports, i.names.Nodup) :
    (topLevelNames s file).Nodup ↔
      s.api.name ≠ "Remote" ∧
      (∀ name, (∃ key, file.Owns key ∧ key.name = name) ∨ (∃ i ∈ file.imports, name ∈ i.names) →
        name ≠ s.api.name ∧ name ≠ "Remote") ∧
      (∀ key, file.Owns key → ∀ key', file.Owns key' → key.name = key'.name → key = key') ∧
      (∀ key, file.Owns key → ∀ i ∈ file.imports, key.name ∉ i.names) ∧
      ∀ i ∈ file.imports, ∀ j ∈ file.imports, i.file ≠ j.file → i.names.Disjoint j.names := by
  have hheld : file.declarations.map Declaration.name =
      (file.declarations.map Declaration.key).map DeclKey.name := by
    rw [List.map_map]
    rfl
  have hmem : ∀ name, name ∈ file.declarations.map Declaration.name ++ file.imports.flatMap Import.names ↔
      (∃ key, file.Owns key ∧ key.name = name) ∨ ∃ i ∈ file.imports, name ∈ i.names := by
    intro name
    rw [List.mem_append, hheld, List.mem_map, List.mem_flatMap]
    rfl
  have howned : (file.declarations.map Declaration.name).Nodup ↔
      ∀ key, file.Owns key → ∀ key', file.Owns key' → key.name = key'.name → key = key' := by
    rw [hheld]
    exact List.nodup_map_iff_inj_on hkeys
  have hacross : (∀ name ∈ file.declarations.map Declaration.name, ∀ name' ∈ file.imports.flatMap Import.names,
      name ≠ name') ↔ ∀ key, file.Owns key → ∀ i ∈ file.imports, key.name ∉ i.names := by
    rw [hheld, List.forall_mem_map]
    constructor
    · intro h key hkey i hi hname
      exact h key hkey _ (List.mem_flatMap.mpr ⟨i, hi, hname⟩) rfl
    · rintro h key hkey name hname rfl
      obtain ⟨i, hi, hname⟩ := List.mem_flatMap.mp hname
      exact h key hkey i hi hname
  -- The class, the runtime, what is held and what is imported stand in this order.
  unfold topLevelNames
  rw [List.nodup_cons, List.nodup_cons, List.nodup_append, howned, nodup_names_iff hfiles hnames, hacross,
    List.mem_cons, not_or]
  constructor
  · rintro ⟨⟨hclass, hfree⟩, hruntime, hown, himports, hapart⟩
    refine ⟨hclass, fun name hname => ⟨?_, ?_⟩, hown, hapart, himports⟩
    · rintro rfl
      exact hfree ((hmem _).mpr hname)
    · rintro rfl
      exact hruntime ((hmem _).mpr hname)
  · rintro ⟨hclass, hfree, hown, hapart, himports⟩
    exact ⟨⟨hclass, fun h => (hfree _ ((hmem _).mp h)).1 rfl⟩, fun h => (hfree _ ((hmem _).mp h)).2 rfl, hown,
      himports, hapart⟩

/-! ## Names in scope -/

variable {layout : Layout} {services : List Service}

/-- The client for a service holds the declaration of a key: clients need it, and it is at home there. -/
def HeldByClient (layout : Layout) (services : List Service) (s : Service) (key : DeclKey) : Prop :=
  Reaches services key ∧ Declared services key ∧
    homePath layout services key.modulePath = layout.clientPath s.api.name

/-- The client for a service mentions a declared key, in the signature of a method or in what it holds. -/
def MentionedByClient (layout : Layout) (services : List Service) (s : Service) (key : DeclKey) : Prop :=
  Declared services key ∧ ∃ r : TypeRef, r.key = key ∧ (r ∈ s.exposedReferences ∨
    ∃ d ∈ plannedDeclarations services, homePath layout services d.modulePath = layout.clientPath s.api.name ∧
      r ∈ d.references)

/-- The client for a service needs the name of a key. -/
def InScope (layout : Layout) (services : List Service) (s : Service) (key : DeclKey) : Prop :=
  HeldByClient layout services s key ∨ MentionedByClient layout services s key

/-- The class, the runtime and the declarations in the scope of a client have different names. Two declarations may
share a name if another file holds them both, which is then imported from there once. -/
structure KeepsApart (layout : Layout) (services : List Service) (s : Service) : Prop where
  runtime : s.api.name ≠ "Remote"
  free : ∀ key, InScope layout services s key → key.name ≠ s.api.name ∧ key.name ≠ "Remote"
  declarations : ∀ key, InScope layout services s key → ∀ key', InScope layout services s key' → key ≠ key' →
    key.name = key'.name →
      homePath layout services key.modulePath = homePath layout services key'.modulePath ∧
        homePath layout services key.modulePath ≠ layout.clientPath s.api.name

/-! ## Clients of a plan -/

theorem pairwise_importsAt {files : List FilePlan} (hpaths : (files.map FilePlan.path).Nodup) (index : Nat)
    (file : FilePlan) : (importsAt files index file).Pairwise fun i j => i.file ≠ j.file := by
  unfold importsAt
  refine List.Pairwise.filterMap _ ?_ (nodup_eraseDups _)
  intro owner owner' hne i hi j hj hfile
  obtain ⟨f, hf, rfl⟩ := Option.map_eq_some_iff.mp hi
  obtain ⟨g, hg, rfl⟩ := Option.map_eq_some_iff.mp hj
  exact hne (eq_of_path_eq hpaths hf hg hfile)

theorem nodup_names_importsAt {files : List FilePlan} {index : Nat} {file : FilePlan} {i : Import}
    (hi : i ∈ importsAt files index file) : i.names.Nodup := by
  obtain ⟨owner, -, hmap⟩ := List.mem_filterMap.mp hi
  obtain ⟨f, -, rfl⟩ := Option.map_eq_some_iff.mp hmap
  exact nodup_eraseDups _

variable {planned : List FilePlan} {file : FilePlan} {s : Service}

/-- No file of a plan holds a key twice, imports twice from one file, or imports a name twice from there. -/
theorem distinct_of_mem_plan (hemits : layout.emitsDeclarations) (hpaths : (clientPaths layout services).Nodup)
    (h : plan layout services = .ok planned) (hfile : file ∈ planned) :
    (file.declarations.map Declaration.key).Nodup ∧ (file.imports.Pairwise fun i j => i.file ≠ j.file) ∧
      ∀ i ∈ file.imports, i.names.Nodup := by
  have hkeys : (ownedKeys planned).Nodup := by
    rw [ownedKeys_plan hemits h]
    exact nodup_ownedKeys hpaths
  refine ⟨(List.nodup_flatMap.mp hkeys).1 file hfile, ?_⟩
  obtain ⟨index, f, -, rfl⟩ := (mem_plan_iff hemits h).mp hfile
  exact ⟨pairwise_importsAt (ownedFiles_placed hpaths).distinct index f, fun i hi => nodup_names_importsAt hi⟩

section

variable (hemits : layout.emitsDeclarations) (hpaths : (clientPaths layout services).Nodup)
  (h : plan layout services = .ok planned) (hfile : file ∈ planned) (hservice : file.service = some s)

include hemits hpaths h hfile hservice

theorem owns_iff_heldByClient (key : DeclKey) : file.Owns key ↔ HeldByClient layout services s key := by
  obtain ⟨-, -, hpath⟩ := (mem_clients_plan_iff hemits h _ s).mp ⟨file, hfile, rfl, hservice⟩
  unfold HeldByClient FilePlan.Owns
  rw [hpath, ← and_assoc, ← mem_ownedKeys hpaths, (ownedKeys_perm hpaths).mem_iff, List.mem_map, List.mem_map]
  constructor
  · rintro ⟨d, hd, rfl⟩
    obtain ⟨hplanned, hhome⟩ := (mem_declarations_iff hemits hpaths h hfile d).mp hd
    exact ⟨⟨d, hplanned, rfl⟩, hhome⟩
  · rintro ⟨⟨d, hplanned, rfl⟩, hhome⟩
    exact ⟨d, (mem_declarations_iff hemits hpaths h hfile d).mpr ⟨hplanned, hhome⟩, rfl⟩

theorem mentionedByClient_iff (key : DeclKey) :
    MentionedByClient layout services s key ↔ Declared services key ∧ ∃ r ∈ file.references, r.key = key := by
  obtain ⟨-, -, hpath⟩ := (mem_clients_plan_iff hemits h _ s).mp ⟨file, hfile, rfl, hservice⟩
  unfold MentionedByClient FilePlan.references
  rw [hservice, hpath]
  refine and_congr_right fun _ => exists_congr fun r => ?_
  rw [and_comm, List.mem_append, List.mem_flatMap, or_comm]
  refine and_congr_left fun _ => or_congr_left (exists_congr fun d => ?_)
  rw [mem_declarations_iff hemits hpaths h hfile, and_assoc]

/-- What is in scope is held by the client itself, or imported from the file that holds it. -/
theorem inScope_cases {key : DeclKey} (hkey : InScope layout services s key) :
    (file.Owns key ∧ homePath layout services key.modulePath = file.path) ∨
      (homePath layout services key.modulePath ≠ file.path ∧
        ∃ i ∈ file.imports, i.file = homePath layout services key.modulePath ∧ key.name ∈ i.names) := by
  have hathome := plan_atHome hemits h
  rcases hkey with hheld | hmentioned
  · have howns := (owns_iff_heldByClient hemits hpaths h hfile hservice key).mpr hheld
    exact .inl ⟨howns, (hathome.path_of_owns hfile howns).symm⟩
  · obtain ⟨hdeclared, r, hr, rfl⟩ := (mentionedByClient_iff hemits hpaths h hfile hservice key).mp hmentioned
    by_cases hhome : homePath layout services r.modulePath = file.path
    · exact .inl ⟨(owns_iff_of_mentioned hemits hpaths h hfile hr hdeclared).mpr hhome, hhome⟩
    · refine .inr ⟨hhome, ?_⟩
      exact (importsName_iff hemits hpaths h hfile _ _).mpr ⟨fun heq => hhome heq.symm, r, hr, rfl, hdeclared, rfl⟩

/-- What is imported is in scope, and at home in the file that it is imported from. -/
theorem inScope_of_imported {i : Import} (hi : i ∈ file.imports) {name : String} (hname : name ∈ i.names) :
    ∃ key, InScope layout services s key ∧ key.name = name ∧
      homePath layout services key.modulePath = i.file ∧ i.file ≠ file.path := by
  obtain ⟨hne, r, hr, rfl, hdeclared, hhome⟩ := (importsName_iff hemits hpaths h hfile i.file name).mp ⟨i, hi, rfl, hname⟩
  refine ⟨r.key, .inr ?_, rfl, hhome, fun heq => hne heq.symm⟩
  exact (mentionedByClient_iff hemits hpaths h hfile hservice r.key).mpr ⟨hdeclared, r, hr, rfl⟩

/-- What the client holds itself is in scope, and at home there. -/
theorem inScope_of_owns {key : DeclKey} (howns : file.Owns key) :
    InScope layout services s key ∧ homePath layout services key.modulePath = layout.clientPath s.api.name := by
  have hheld := (owns_iff_heldByClient hemits hpaths h hfile hservice key).mp howns
  exact ⟨.inl hheld, hheld.2.2⟩

/-- The names of a planned client are distinct if and only if the services keep them apart. -/
theorem nodup_topLevelNames_plan_iff : (topLevelNames s file).Nodup ↔ KeepsApart layout services s := by
  obtain ⟨-, -, hpath⟩ := (mem_clients_plan_iff hemits h _ s).mp ⟨file, hfile, rfl, hservice⟩
  have hcases := fun {key} (hkey : InScope layout services s key) =>
    inScope_cases hemits hpaths h hfile hservice hkey
  have himported := fun {i} (hi : i ∈ file.imports) {name} (hname : name ∈ i.names) =>
    inScope_of_imported hemits hpaths h hfile hservice hi hname
  have hheld := fun {key} (howns : file.Owns key) => inScope_of_owns hemits hpaths h hfile hservice howns
  obtain ⟨hkeys, hfiles, hnames⟩ := distinct_of_mem_plan hemits hpaths h hfile
  rw [nodup_topLevelNames_iff hkeys hfiles hnames]
  constructor
  · rintro ⟨hruntime, hfree, hown, hacross, hdisjoint⟩
    refine ⟨hruntime, fun key hkey => hfree key.name ?_, fun key hkey key' hkey' hne hname => ?_⟩
    · rcases hcases hkey with ⟨howns, -⟩ | ⟨-, i, hi, -, hmem⟩
      · exact .inl ⟨key, howns, rfl⟩
      · exact .inr ⟨i, hi, hmem⟩
    · rcases hcases hkey with ⟨howns, -⟩ | ⟨hother, i, hi, hhome, hmem⟩
      · rcases hcases hkey' with ⟨howns', -⟩ | ⟨-, j, hj, -, hmem'⟩
        · exact absurd (hown key howns key' howns' hname) hne
        · exact absurd (hname ▸ hmem') (hacross key howns j hj)
      · rcases hcases hkey' with ⟨howns', -⟩ | ⟨-, j, hj, hhome', hmem'⟩
        · exact absurd (hname ▸ hmem) (hacross key' howns' i hi)
        · refine ⟨?_, hpath ▸ hother⟩
          by_contra hdifferent
          have hij : i.file ≠ j.file := by rwa [hhome, hhome']
          exact hdisjoint i hi j hj hij hmem (hname ▸ hmem')
  · rintro ⟨hruntime, hfree, hshared⟩
    refine ⟨hruntime, ?_, ?_, ?_, ?_⟩
    · rintro name (⟨key, howns, rfl⟩ | ⟨i, hi, hname⟩)
      · exact hfree key (hheld howns).1
      · obtain ⟨key, hkey, rfl, -⟩ := himported hi hname
        exact hfree key hkey
    · intro key howns key' howns' hname
      by_contra hne
      exact (hshared key (hheld howns).1 key' (hheld howns').1 hne hname).2 (hheld howns).2
    · intro key howns i hi hmem
      obtain ⟨key', hkey', hname, hhome, hother⟩ := himported hi hmem
      have hne : key ≠ key' := by
        rintro rfl
        exact hother (hhome.symm.trans ((hheld howns).2.trans hpath))
      exact (hshared key (hheld howns).1 key' hkey' hne hname.symm).2 (hheld howns).2
    · intro i hi j hj hij name hmem hmem'
      obtain ⟨key, hkey, rfl, hhome, -⟩ := himported hi hmem
      obtain ⟨key', hkey', hname, hhome', -⟩ := himported hj hmem'
      have hdifferent : homePath layout services key.modulePath ≠ homePath layout services key'.modulePath := by
        rwa [hhome, hhome']
      have hne : key ≠ key' := by
        rintro rfl
        exact hdifferent rfl
      exact hdifferent (hshared key hkey key' hkey' hne hname.symm).1

end

/-! ## Clients that are generated -/

/-- A generated client is the text of a planned one. -/
theorem client_of_generateTarget {services : List Service} {m : Metadata} {files : List OutputFile}
    (h : generateTarget services target m = .ok files) :
    ∃ planned, plan target.emitter.toLayout (disambiguate services) = .ok planned ∧
      (planned.map FilePlan.path).Nodup ∧
      ∀ f ∈ files, ∀ className, f.ownerClass = some className →
        ∃ file ∈ planned, ∃ s, file.service = some s ∧ s.api.name = className ∧ f.path = file.path ∧
          target.emitter.clientText s file m = .ok f.content := by
  obtain ⟨planned, rendered, hplan, hrendered, hpaths, rfl⟩ := generateTarget_eq_ok_iff.mp h
  refine ⟨planned, hplan, ?_, ?_⟩
  · have hall := (nodup_companions target _).mp (firstRepeated?_eq_none_iff.mp hpaths).1
    rw [paths_renderedFiles hrendered] at hall
    exact hall.sublist (List.sublist_append_left _ _)
  · intro f hf className hclass
    rw [List.mem_mergeSort] at hf
    -- The runtime and the companions belong to no class.
    have hmem : f ∈ rendered := by
      rcases List.mem_append.mp hf with hf | hf
      · rcases List.mem_append.mp hf with hf | hf
        · exact hf
        · rw [List.mem_singleton] at hf
          subst hf
          cases hclass
      · rw [ownerClass_companions target _ f hf] at hclass
        cases hclass
    obtain ⟨i, hlt, rfl⟩ := List.mem_iff_getElem.mp hmem
    obtain ⟨hlength, hall⟩ := List.forall₂_iff_get.mp (forall₂_of_mapM_eq_ok hrendered)
    have hi : i < planned.length := hlength ▸ hlt
    have hrender : renderFile target.emitter m planned[i] = .ok rendered[i] := hall i hi hlt
    refine ⟨planned[i], List.getElem_mem hi, ?_⟩
    have howner := (renderFile_eq_ok hrender).2
    cases hservice : planned[i].service with
    | none =>
      rw [hservice, hclass] at howner
      cases howner
    | some s =>
      rw [hservice, hclass, Option.map_some, Option.some.injEq] at howner
      refine ⟨s, rfl, howner.symm, path_renderFile hrender, ?_⟩
      unfold renderFile at hrender
      rw [hservice] at hrender
      obtain ⟨text, htext, heq⟩ := map_eq_ok_iff.mp hrender
      rw [← heq]
      exact htext

/-- Every planned client is generated. -/
theorem exists_client_of_generateTarget {services : List Service} {m : Metadata} {files : List OutputFile}
    (h : generateTarget services target m = .ok files) {planned : List FilePlan}
    (hplan : plan target.emitter.toLayout (disambiguate services) = .ok planned) {file : FilePlan}
    (hfile : file ∈ planned) : ∃ f ∈ files, f.path = file.path ∧
      f.ownerClass = file.service.map fun s => s.api.name := by
  obtain ⟨planned', rendered, hplan', hrendered, -, rfl⟩ := generateTarget_eq_ok_iff.mp h
  obtain rfl : planned' = planned := Except.ok.inj (hplan'.symm.trans hplan)
  obtain ⟨i, hlt, rfl⟩ := List.mem_iff_getElem.mp hfile
  obtain ⟨hlength, hall⟩ := List.forall₂_iff_get.mp (forall₂_of_mapM_eq_ok hrendered)
  have hi : i < rendered.length := hlength ▸ hlt
  have hrender : renderFile target.emitter m planned'[i] = .ok rendered[i] := hall i hlt hi
  refine ⟨rendered[i], ?_, renderFile_eq_ok hrender⟩
  rw [List.mem_mergeSort]
  exact List.mem_append_left _ (List.mem_append_left _ (List.getElem_mem hi))

/-- Every client that is generated for TypeScript, Python or Dart is made of the statements that import the runtime
and other files, its declarations and its class. The names that these introduce are distinct if and only if the
services, under the names that declarations have been given, keep the class, the runtime and the declarations in
scope apart. -/
theorem generateTarget_topLevelNames_iff (hx : target.clientSyntax? = some x) {services : List Service} {m : Metadata}
    {files : List OutputFile} (h : generateTarget services target m = .ok files) :
    ∃ planned, plan target.emitter.toLayout (disambiguate services) = .ok planned ∧
      ∀ f ∈ files, ∀ className, f.ownerClass = some className →
        ∃ file ∈ planned, ∃ s ∈ disambiguate services, file.service = some s ∧ s.api.name = className ∧
          f.path = file.path ∧
          (∃ declarations, file.declarations.mapM target.emitter.declarationText = .ok declarations ∧
            f.content = x.text target.emitter.runtimePath s file declarations) ∧
          ((topLevelNames s file).Nodup ↔ KeepsApart target.emitter.toLayout (disambiguate services) s) := by
  have hemits := emitsDeclarations_of_clientSyntax? hx
  obtain ⟨planned, hplan, hdistinct, hclients⟩ := client_of_generateTarget h
  refine ⟨planned, hplan, ?_⟩
  intro f hf className hclass
  obtain ⟨file, hfile, s, hservice, hname, hpath, htext⟩ := hclients f hf className hclass
  obtain ⟨hs, -⟩ := (mem_clients_plan_iff hemits hplan _ s).mp ⟨file, hfile, rfl, hservice⟩
  have hpaths := nodup_clientPaths_of_plan hemits hplan hdistinct
  exact ⟨file, hfile, s, hs, hservice, hname, hpath, clientText_eq hx htext,
    nodup_topLevelNames_plan_iff hemits hpaths hplan hfile hservice⟩

/-! ## A class and a record of one name -/

/-- A service whose method takes a record `S` of another module. -/
def takingRecord (className : String) : Service :=
  { language := .typeScript
    modulePath := "s"
    api :=
      { name := className
        methods := [⟨"f", [⟨"t", .named ⟨"S", "m", .record⟩, false, none⟩], .void, .rpc, none⟩]
        docs := none }
    declarations := [⟨"S", "m", .record [⟨"a", false, .string⟩], none⟩] }

/-- No other module declares the name. -/
theorem disambiguate_takingRecord (className : String) :
    disambiguate [takingRecord className] = [takingRecord className] := by
  refine disambiguate_eq_self fun key hclash => ?_
  have hdeclared : declaredKeys [takingRecord className] = [⟨"S", "m"⟩] := rfl
  rw [hdeclared] at hclash
  exact not_clashes_singleton _ _ hclash

/-- The client needs the record and nothing else. -/
theorem inScope_takingRecord_iff (layout : Layout) (className : String) (key : DeclKey) :
    InScope layout [takingRecord className] (takingRecord className) key ↔ key = ⟨"S", "m"⟩ := by
  have hdeclared : Declared [takingRecord className] key ↔ key = ⟨"S", "m"⟩ := by
    unfold Declared
    simp [takingRecord, Declaration.key, eq_comm]
  constructor
  · rintro (hheld | hmentioned)
    · exact hdeclared.mp hheld.2.1
    · exact hdeclared.mp hmentioned.1
  · intro hkey
    refine .inr ⟨hdeclared.mpr hkey, ⟨"S", "m", .record⟩, hkey.symm, .inl ?_⟩
    simp [takingRecord, Service.exposedReferences, ServiceClass.exposedMethods, Exposure.isCallable,
      Method.references, DataType.references]

theorem keepsApart_takingRecord_iff (layout : Layout) (className : String) :
    KeepsApart layout [takingRecord className] (takingRecord className) ↔ className ≠ "Remote" ∧ className ≠ "S" := by
  constructor
  · intro h
    exact ⟨h.runtime, (h.free _ ((inScope_takingRecord_iff layout className _).mpr rfl)).1.symm⟩
  · rintro ⟨hruntime, hrecord⟩
    refine ⟨hruntime, fun key hkey => ?_, fun key hkey key' hkey' hne => ?_⟩
    · rw [(inScope_takingRecord_iff layout className key).mp hkey]
      exact ⟨hrecord.symm, by decide⟩
    · rw [(inScope_takingRecord_iff layout className key).mp hkey,
        (inScope_takingRecord_iff layout className key').mp hkey'] at hne
      exact absurd rfl hne

theorem plannedDeclarations_takingRecord (className : String) :
    plannedDeclarations (disambiguate [takingRecord className]) = (takingRecord className).declarations := by
  rw [disambiguate_takingRecord]
  apply plannedDeclarations_leaf
  · simp [takingRecord, Service.exposedReferences, ServiceClass.exposedMethods, Exposure.isCallable,
      Method.references, DataType.references, TypeRef.key, Declaration.key]
  · simp [takingRecord, findDeclaration]
  · simp [Declaration.references, DataType.references]

/-- There are files for the service, unless they would need one path. -/
theorem generateTarget_takingRecord {className : String} (h : className = "S" ∨ className = "C") :
    ∃ files, generateTarget [takingRecord className] .typeScript .standard = .ok files := by
  apply generateTarget_isOk
  unfold plan ownedFiles
  rw [plannedDeclarations_takingRecord]
  rcases h with rfl | rfl <;> decide

/-- The client for a class of another name has distinct names. -/
theorem generateTarget_topLevelNames_distinct :
    ∃ files planned, generateTarget [takingRecord "C"] .typeScript .standard = .ok files ∧
      plan TypeScript.emitter.toLayout [takingRecord "C"] = .ok planned ∧
      ∀ f ∈ files, f.ownerClass = some "C" →
        ∃ file ∈ planned, file.service = some (takingRecord "C") ∧ (topLevelNames (takingRecord "C") file).Nodup := by
  obtain ⟨files, h⟩ := generateTarget_takingRecord (.inr rfl)
  have hx : Target.typeScript.clientSyntax? = some _ := rfl
  obtain ⟨planned, hplan, hclients⟩ := generateTarget_topLevelNames_iff hx h
  rw [disambiguate_takingRecord] at hplan hclients
  refine ⟨files, planned, h, hplan, fun f hf hclass => ?_⟩
  obtain ⟨file, hfile, s, hs, hservice, -, -, -, hiff⟩ := hclients f hf "C" hclass
  obtain rfl := List.mem_singleton.mp hs
  exact ⟨file, hfile, hservice, hiff.mpr ((keepsApart_takingRecord_iff _ "C").mpr ⟨by decide, by decide⟩)⟩

/-- The client for a class of this name imports the record under the name of its class. -/
theorem generateTarget_class_imported :
    ∃ files planned, generateTarget [takingRecord "S"] .typeScript .standard = .ok files ∧
      plan TypeScript.emitter.toLayout (disambiguate [takingRecord "S"]) = .ok planned ∧
      ∃ f ∈ files, f.ownerClass = some "S" ∧
        ∃ file ∈ planned, file.service = some (takingRecord "S") ∧ f.path = file.path ∧
          ¬(topLevelNames (takingRecord "S") file).Nodup := by
  obtain ⟨files, h⟩ := generateTarget_takingRecord (.inl rfl)
  obtain ⟨planned, hplan, hdistinct, -⟩ := client_of_generateTarget h
  have hpaths := nodup_clientPaths_of_plan rfl hplan hdistinct
  have hs : takingRecord "S" ∈ disambiguate [takingRecord "S"] := by
    rw [disambiguate_takingRecord]
    exact List.mem_singleton_self _
  have hexposed : (takingRecord "S").api.exposedMethods ≠ [] := by
    simp [takingRecord, ServiceClass.exposedMethods, Exposure.isCallable]
  obtain ⟨file, hfile, -, hservice⟩ := (mem_clients_plan_iff rfl hplan _ _).mpr ⟨hs, hexposed, rfl⟩
  obtain ⟨f, hf, hpath, hclass⟩ := exists_client_of_generateTarget h hplan hfile
  rw [hservice] at hclass
  refine ⟨files, planned, h, hplan, f, hf, hclass, file, hfile, hservice, hpath, ?_⟩
  rw [nodup_topLevelNames_plan_iff rfl hpaths hplan hfile hservice, disambiguate_takingRecord,
    keepsApart_takingRecord_iff]
  exact fun hapart => hapart.2 rfl

end ServiceStubs
