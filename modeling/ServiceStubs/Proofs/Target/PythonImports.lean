import ServiceStubs.Proofs.Plan.ImportGraph
import ServiceStubs.Proofs.Target.Outcome

/-!
# Imports between Python modules

A Python module runs its imports before anything else, so that modules that import each other in a circle
cannot be imported. Each file opens with the imports that are planned for it, and these run in a circle if
and only if the services need declarations of each other's modules in a circle. Records may refer to each
other, and where they do so from different modules they make such a circle.

* `Python.Opens` says with which statements a module begins;
* `generateTarget_opens` says that these are the planned ones;
* `generateTarget_circular_iff` says when imports run in a circle;
* `generateTarget_circular` is a circle of two records.
-/

namespace ServiceStubs

/-! ## Statements -/

/-- The text is a preamble, an empty line, the statements, and what follows behind an empty line. Without
statements the first empty line is left out. -/
def Python.Opens (text : String) (statements : List String) : Prop :=
  ∃ rest : List String, (rest = [] ∨ rest.head? = some "") ∧
    text = unlines (Python.preamble ++ (if statements.isEmpty then [] else "" :: statements) ++ rest)

/-- The import statements that a file opens with. Clients import the runtime first, which imports none of
the files. -/
def Python.statements (file : FilePlan) : List String :=
  (if file.service.isSome then
      ["from " ++ Python.importModule file.path Python.emitter.runtimePath ++ " import Remote"] else []) ++
    file.imports.map (Python.importLine file.path)

/-- A rendered file opens with its import statements. -/
theorem Python.renderFile_opens {m : Metadata} {file : FilePlan} {f : OutputFile}
    (h : renderFile Python.emitter m file = .ok f) : Python.Opens f.content (Python.statements file) := by
  unfold renderFile at h
  split at h
  · rename_i s hservice
    obtain ⟨text, htext, rfl⟩ := map_eq_ok_iff.mp h
    obtain ⟨declarations, -, htext⟩ := bind_eq_ok_iff.mp htext
    cases htext
    -- What stands behind the statements begins with an empty line, which ends them.
    refine ⟨declarations.flatMap (fun d => ["", "", d]) ++ ["", "", "class " ++ s.api.name ++ ":"] ++
      docLines s.api.docs .docstring "    " ++ ["    remote = Remote(\"" ++ remoteUrlPlaceholder ++ "\")"] ++
      s.api.exposedMethods.flatMap (Python.methodLines s.api.name) ++
      ["", "", "__all__ = [\"" ++ s.api.name ++ "\", \"Remote\"]"], .inr ?_, ?_⟩
    · cases declarations <;> rfl
    · unfold Python.statements
      simp [hservice, Python.emitter]
  · rename_i hservice
    obtain ⟨text, htext, rfl⟩ := map_eq_ok_iff.mp h
    obtain ⟨declarations, -, htext⟩ := bind_eq_ok_iff.mp htext
    cases htext
    refine ⟨declarations.flatMap fun d => ["", "", d], ?_, ?_⟩
    · cases declarations with
      | nil => exact .inl rfl
      | cons d rest => exact .inr rfl
    · unfold Python.statements
      cases file.imports <;> simp [hservice]

theorem paths_clientsOf_sublist (files : List FilePlan) :
    ((clientsOf files).map Prod.fst).Sublist (files.map FilePlan.path) := by
  induction files with
  | nil => exact List.Sublist.refl _
  | cons f rest ih =>
    unfold clientsOf at ih ⊢
    cases hservice : f.service with
    | none =>
      rw [List.filterMap_cons_none (by rw [hservice]; rfl)]
      exact ih.cons f.path
    | some s =>
      rw [List.filterMap_cons_some (by rw [hservice]; rfl)]
      exact ih.cons_cons f.path

/-- Clients are planned at the paths of clients, so that these are different if all paths are. -/
theorem nodup_clientPaths_of_plan {layout : Layout} {services : List Service} {planned : List FilePlan}
    (hemits : layout.emitsDeclarations) (h : plan layout services = .ok planned)
    (hpaths : (planned.map FilePlan.path).Nodup) : (clientPaths layout services).Nodup := by
  have hclients : clientPaths layout services = (clientsOf planned).map Prod.fst := by
    rw [(plan_atHome hemits h).clients, clientsOf_clientFiles, List.map_map]
    rfl
  rw [hclients]
  exact hpaths.sublist (paths_clientsOf_sublist planned)

/-- There is a file for everything that is planned, with the statements that are planned. -/
theorem generateTarget_opens {services : List Service} {m : Metadata} {files : List OutputFile}
    (h : generateTarget services .python m = .ok files) :
    ∃ planned, plan Python.emitter.toLayout (disambiguate services) = .ok planned ∧
      (clientPaths Python.emitter.toLayout (disambiguate services)).Nodup ∧
      ∀ file ∈ planned, ∃ f ∈ files, f.path = file.path ∧ Python.Opens f.content (Python.statements file) := by
  obtain ⟨planned, rendered, hplan, hrendered, hpaths, rfl⟩ := generateTarget_eq_ok_iff.mp h
  have hnodup : (planned.map FilePlan.path).Nodup := by
    have hall := (nodup_companions .python _).mp (firstRepeated?_eq_none_iff.mp hpaths).1
    rw [paths_renderedFiles hrendered] at hall
    exact hall.sublist (List.sublist_append_left _ _)
  refine ⟨planned, hplan, nodup_clientPaths_of_plan rfl hplan hnodup, ?_⟩
  intro file hfile
  obtain ⟨i, hlt, rfl⟩ := List.mem_iff_getElem.mp hfile
  obtain ⟨hlength, hall⟩ := List.forall₂_iff_get.mp (forall₂_of_mapM_eq_ok hrendered)
  have hrender := hall i hlt (hlength ▸ hlt)
  have hf := List.getElem_mem (hlength ▸ hlt : i < rendered.length)
  refine ⟨_, ?_, path_renderFile hrender, Python.renderFile_opens hrender⟩
  rw [List.mem_mergeSort]
  exact List.mem_append_left _ (List.mem_append_left _ hf)

/-! ## Circles -/

/-- Python modules import each other in a circle if and only if the services need each other's paths in a
circle, whenever there are modules. The modules open with the imports that are planned. -/
theorem generateTarget_circular_iff {services : List Service} {m : Metadata} {files : List OutputFile}
    (h : generateTarget services .python m = .ok files) :
    ∃ planned, plan Python.emitter.toLayout (disambiguate services) = .ok planned ∧
      (∀ file ∈ planned, ∃ f ∈ files, f.path = file.path ∧
        Python.Opens f.content (Python.statements file)) ∧
      (Circular (ImportsFrom planned) ↔
        Circular (Needs Python.emitter.toLayout (disambiguate services))) := by
  obtain ⟨planned, hplan, hpaths, hopens⟩ := generateTarget_opens h
  refine ⟨planned, hplan, hopens, ?_⟩
  have heq : ImportsFrom planned = Needs Python.emitter.toLayout (disambiguate services) := by
    funext path path'
    exact propext (importsFrom_iff_needs rfl hpaths hplan path path')
  rw [heq]

/-! ## Two records in two modules -/

/-- A service whose method takes a record of the module `a`, which holds a record of the module `b`. The
second record holds the first one again, or nothing. -/
def pairService (back : Bool) : Service :=
  { language := .typeScript
    modulePath := "s"
    api :=
      { name := "S"
        methods := [⟨"f", [⟨"a", .named ⟨"A", "a", .record⟩, false, none⟩], .void, .rpc, none⟩]
        docs := none }
    declarations :=
      [⟨"A", "a", .record [⟨"b", false, .named ⟨"B", "b", .record⟩⟩], none⟩,
        ⟨"B", "b", .record (if back then [⟨"a", true, .named ⟨"A", "a", .record⟩⟩] else []), none⟩] }

theorem disambiguate_pairService (back : Bool) : disambiguate [pairService back] = [pairService back] := by
  refine disambiguate_eq_self fun key hclash => ?_
  obtain ⟨hkey, other, hother, hname, hpath⟩ := hclash
  have hdeclared : declaredKeys [pairService back] = [⟨"A", "a"⟩, ⟨"B", "b"⟩] := by
    cases back <;> rfl
  rw [hdeclared] at hkey hother
  simp only [List.mem_cons, List.not_mem_nil, or_false] at hkey hother
  rcases hkey with rfl | rfl <;> rcases hother with rfl | rfl
  · exact hpath rfl
  · exact absurd hname (by decide)
  · exact absurd hname (by decide)
  · exact hpath rfl

/-- Clients need both records. -/
theorem plannedDeclarations_pairService (back : Bool) :
    plannedDeclarations (disambiguate [pairService back]) = (pairService back).declarations := by
  have hkeys : reachableKeys (pairService back).declarations [pairService back] =
      [⟨"A", "a"⟩, ⟨"B", "b"⟩] := by
    have hmentioned : ([pairService back].flatMap fun s => s.exposedReferences.map TypeRef.key) =
        [⟨"A", "a"⟩] := by
      cases back <;> decide_cbv
    have hA : findDeclaration (pairService back).declarations ⟨"A", "a"⟩ =
        some ⟨"A", "a", .record [⟨"b", false, .named ⟨"B", "b", .record⟩⟩], none⟩ := by
      simp [pairService, findDeclaration, Declaration.key]
    have hB : findDeclaration (pairService back).declarations ⟨"B", "b"⟩ =
        some ⟨"B", "b", .record (if back then [⟨"a", true, .named ⟨"A", "a", .record⟩⟩] else []), none⟩ := by
      simp [pairService, findDeclaration, Declaration.key]
    unfold reachableKeys
    rw [hmentioned, closeKeys_found (by simp) hA, List.nil_append, List.nil_append]
    have hnext : (Declaration.references
        ⟨"A", "a", .record [⟨"b", false, .named ⟨"B", "b", .record⟩⟩], none⟩).map TypeRef.key =
        [⟨"B", "b"⟩] := by
      decide_cbv
    rw [hnext, closeKeys_found (by decide) hB, List.nil_append]
    -- The second record ends the search, or it leads back to a key that has been seen.
    cases back with
    | false => simp [Declaration.references, closeKeys]
    | true =>
      have hlast : (Declaration.references
          ⟨"B", "b", .record [⟨"a", true, .named ⟨"A", "a", .record⟩⟩], none⟩).map TypeRef.key =
          [⟨"A", "a"⟩] := by
        decide_cbv
      rw [if_pos rfl, hlast, closeKeys_seen (by simp), closeKeys]
      rfl
  rw [disambiguate_pairService, plannedDeclarations_singleton, hkeys]
  cases back <;> rfl

/-- There are modules for both services. -/
theorem generateTarget_pairService (back : Bool) :
    ∃ files, generateTarget [pairService back] .python .standard = .ok files := by
  apply generateTarget_isOk
  unfold plan ownedFiles
  rw [plannedDeclarations_pairService]
  cases back <;> decide

/-- The declarations of the records and the references in them. -/
theorem references_pairService {back : Bool} {d : Declaration}
    (hd : d ∈ plannedDeclarations (disambiguate [pairService back])) {r : TypeRef} (hr : r ∈ d.references) :
    (d.modulePath = "a" ∧ r.modulePath = "b") ∨ (d.modulePath = "b" ∧ r.modulePath = "a" ∧ back) := by
  rw [plannedDeclarations_pairService] at hd
  cases back <;>
  · simp only [pairService, List.mem_cons, List.not_mem_nil, or_false] at hd
    rcases hd with rfl | rfl <;> simp [Declaration.references, DataType.references] at hr <;> simp [hr]

/-- The modules of the records have files of their own. -/
theorem homePath_pairService (back : Bool) :
    homePath Python.emitter.toLayout (disambiguate [pairService back]) "a" = "a.py" ∧
      homePath Python.emitter.toLayout (disambiguate [pairService back]) "b" = "b.py" := by
  rw [disambiguate_pairService]
  cases back <;> decide

/-- Where the second record holds the first one again, Python modules are generated that import each other
in a circle, at their top. -/
theorem generateTarget_circular :
    ∃ files planned, generateTarget [pairService true] .python .standard = .ok files ∧
      plan Python.emitter.toLayout (disambiguate [pairService true]) = .ok planned ∧
      (∀ file ∈ planned, ∃ f ∈ files, f.path = file.path ∧
        Python.Opens f.content (Python.statements file)) ∧
      Circular (ImportsFrom planned) := by
  obtain ⟨files, h⟩ := generateTarget_pairService true
  obtain ⟨planned, hplan, hpaths, hopens⟩ := generateTarget_opens h
  obtain ⟨ha, hb⟩ := homePath_pairService true
  have hmem : ∀ d ∈ (pairService true).declarations,
      d ∈ plannedDeclarations (disambiguate [pairService true]) ∧
        Declared (disambiguate [pairService true]) d.key := by
    intro d hd
    rw [plannedDeclarations_pairService, disambiguate_pairService]
    exact ⟨hd, _, List.mem_cons_self, d, hd, rfl⟩
  obtain ⟨hplannedA, hdeclaredA⟩ := hmem _ List.mem_cons_self
  obtain ⟨hplannedB, hdeclaredB⟩ := hmem _ (List.mem_cons_of_mem _ List.mem_cons_self)
  -- Each record mentions the other, and the two are at home in different files.
  have hab : ImportsFrom planned "a.py" "b.py" := by
    rw [importsFrom_iff_needs rfl hpaths hplan]
    exact ⟨by decide, .inl ⟨_, hplannedA, ha, ⟨"B", "b", .record⟩, by decide_cbv, hdeclaredB, hb⟩⟩
  have hba : ImportsFrom planned "b.py" "a.py" := by
    rw [importsFrom_iff_needs rfl hpaths hplan]
    exact ⟨by decide, .inl ⟨_, hplannedB, hb, ⟨"A", "a", .record⟩, by decide_cbv, hdeclaredA, ha⟩⟩
  exact ⟨files, planned, h, hplan, hopens, "a.py", .tail (.single hab) hba⟩

/-- Where the second record holds nothing, the modules can be imported. -/
theorem generateTarget_circular_iff_chain :
    ∃ files planned, generateTarget [pairService false] .python .standard = .ok files ∧
      plan Python.emitter.toLayout (disambiguate [pairService false]) = .ok planned ∧
      ¬Circular (ImportsFrom planned) := by
  obtain ⟨files, h⟩ := generateTarget_pairService false
  obtain ⟨planned, hplan, -, hiff⟩ := generateTarget_circular_iff h
  refine ⟨files, planned, h, hplan, ?_⟩
  rw [hiff]
  -- The client needs the first record, and this one needs the second.
  refine not_circular_of_rank (fun path => if path = "s.py" then 2 else if path = "a.py" then 1 else 0) ?_
  rintro path path' ⟨hne, ⟨d, hd, rfl, r, hr, -, rfl⟩ | ⟨s, hs, rfl, r, hr, -, rfl⟩⟩
  · rcases references_pairService hd hr with ⟨hpath, hpath'⟩ | ⟨-, -, hback⟩
    · rw [hpath, hpath', (homePath_pairService false).1, (homePath_pairService false).2]
      decide
    · cases hback
  · rw [disambiguate_pairService, List.mem_singleton] at hs
    subst hs
    have hr' : r.modulePath = "a" := by
      simp [pairService, Service.exposedReferences, ServiceClass.exposedMethods, Exposure.isCallable,
        Method.references, DataType.references] at hr
      rw [hr]
    rw [hr', (homePath_pairService false).1]
    decide

end ServiceStubs
