import Mathlib
import ServiceStubs.Proofs.Plan.Restriction
import ServiceStubs.Proofs.Target.Outcome

/-!
# What clients do not need has no influence

Methods that are not exposed, and declarations that no exposed method leads to, are not written anywhere; and
what is written is the same without them, apart from one thing: the names. Whether a declaration gets the path
of its module in front depends on all declarations of the batch.

* `generateNamed_restricted` says that nothing but the names depends on the rest of a batch;
* `disambiguate_trimmed` says when the names do not, either;
* `generateTarget_trimmed` joins them;
* `generateTarget_not_trimmed` has a batch whose names depend on the rest, and one where a declaration that is
  not needed takes the place of one that is.
-/

namespace ServiceStubs

variable {services : List Service} {keys : List DeclKey}

/-! ## Files of services with settled names -/

/-- All files of a target, for services that keep the names of their declarations. -/
def generateNamed (services : List Service) (target : Target) (m : Metadata) :
    Except Error (List OutputFile) :=
  (plan target.emitter.toLayout services).bind fun planned =>
    (planned.mapM (renderFile target.emitter m)).bind fun rendered =>
      match firstRepeated? [] ((allFiles target.emitter m rendered).map (·.path)) with
      | some path => .error (.render target.label (.pathClaimedTwice path))
      | none => .ok ((allFiles target.emitter m rendered).mergeSort fun a b => decide (a.path ≤ b.path))

theorem generateTarget_eq_generateNamed (services : List Service) (target : Target) (m : Metadata) :
    generateTarget services target m = generateNamed (disambiguate services) target m :=
  generateTarget_eq services target m

/-- What is the same for every member of a list is the same for the list. -/
theorem mapM_congr_mem {α β ε : Type} {f g : α → Except ε β} {xs : List α} (h : ∀ x ∈ xs, f x = g x) :
    xs.mapM f = xs.mapM g := by
  induction xs with
  | nil => rfl
  | cons x rest ih =>
    have hrest := ih fun x' hx' => h x' (List.mem_cons_of_mem x hx')
    rw [List.mapM_cons, List.mapM_cons, h x List.mem_cons_self, hrest]

/-- The client of a restricted service is that of the service. -/
theorem renderFile_restricted (target : Target) (m : Metadata) {file : FilePlan}
    (h : ∀ s, file.service = some s →
      (s.restricted keys).reachableDeclarations = s.reachableDeclarations) :
    renderFile target.emitter m (file.restricted keys) = renderFile target.emitter m file := by
  obtain ⟨path, service, declarations, imports⟩ := file
  cases service with
  | none => rfl
  | some s =>
    have hclient : target.emitter.clientText (s.restricted keys)
          ⟨path, some (s.restricted keys), declarations, imports⟩ m =
        target.emitter.clientText s ⟨path, some s, declarations, imports⟩ m := by
      cases target with
      | javaScript =>
        -- This target shows what the service reaches by itself.
        simp only [Target.emitter, JavaScript.emitter, JavaScript.clientText, exposedMethods_restricted, h s rfl]
        rfl
      | _ =>
        simp only [Target.emitter, TypeScript.emitter, Python.emitter, Swift.emitter, Dart.emitter,
          Kotlin.emitter, Go.emitter, TypeScript.clientText, Python.clientText, Swift.clientText,
          Dart.clientText, Kotlin.clientText, Go.clientText, exposedMethods_restricted]
        rfl
    show (target.emitter.clientText (s.restricted keys)
        ⟨path, some (s.restricted keys), declarations, imports⟩ m).map _ = _
    rw [hclient]
    rfl

/-- Services with settled names give the same files when they are restricted to keys that suffice. -/
theorem generateNamed_restricted (h : Suffices keys services) (target : Target) (m : Metadata) :
    generateNamed (services.map (Service.restricted keys)) target m = generateNamed services target m := by
  unfold generateNamed
  rw [plan_restricted target.emitter.toLayout h]
  cases hplan : plan target.emitter.toLayout services with
  | error e => rfl
  | ok planned =>
    have hrendered : (planned.map (FilePlan.restricted keys)).mapM (renderFile target.emitter m) =
        planned.mapM (renderFile target.emitter m) := by
      rw [List.mapM_map]
      apply mapM_congr_mem
      intro file hfile
      apply renderFile_restricted
      intro s hs
      exact reachableDeclarations_restricted h (service_mem_of_plan hplan hfile hs)
    show ((planned.map (FilePlan.restricted keys)).mapM (renderFile target.emitter m)).bind _ = _
    rw [hrendered]
    rfl

/-! ## New names -/

/-- The key under which a declaration goes when all of `declared` are in play. -/
def DeclKey.renamed (declared : List DeclKey) (key : DeclKey) : DeclKey :=
  ⟨distinctName declared key, key.modulePath⟩

theorem exposedMethods_mapReferences (f : TypeRef → TypeRef) (methods : List Method) :
    (methods.map (Method.mapReferences f)).filter (fun m => m.exposure.isCallable) =
      (methods.filter fun m => m.exposure.isCallable).map (Method.mapReferences f) := by
  rw [List.filter_map]
  rfl

theorem exposedReferences_renamed (declared : List DeclKey) (s : Service) :
    (s.renamed declared).exposedReferences = s.exposedReferences.map (TypeRef.renamed declared) := by
  unfold Service.exposedReferences ServiceClass.exposedMethods Service.renamed
  rw [exposedMethods_mapReferences]
  exact flatMap_map_references _ Method.references _ fun m _ => Method.references_mapReferences _ m

/-- A declaration that is taken out does not go by the new name of a key that stays. -/
def StayApart (declared keys : List DeclKey) : Prop :=
  ∀ u ∈ declared, u ∉ keys → ∀ k ∈ keys, u.renamed declared ≠ k.renamed declared

/-- Under the new names the same declarations stay as under the old ones. -/
theorem renamed_mem_iff {declared : List DeclKey} (hapart : StayApart declared keys) {key : DeclKey}
    (hkey : key ∈ declared) : key.renamed declared ∈ keys.map (DeclKey.renamed declared) ↔ key ∈ keys := by
  constructor
  · intro hmem
    obtain ⟨k, hk, heq⟩ := List.mem_map.mp hmem
    by_contra hout
    exact hapart key hkey hout k hk heq.symm
  · intro hmem
    exact List.mem_map_of_mem hmem

/-- It makes no difference whether services are restricted before or after they are renamed. -/
theorem renamed_restricted {declared : List DeclKey} (hapart : StayApart declared keys) {s : Service}
    (hs : ∀ d ∈ s.declarations, d.key ∈ declared) :
    (s.restricted keys).renamed declared =
      (s.renamed declared).restricted (keys.map (DeclKey.renamed declared)) := by
  have hmethods := exposedMethods_mapReferences (TypeRef.renamed declared) s.api.methods
  have hdeclarations : (s.declarations.map (Declaration.renamed declared)).filter
        (fun d => d.key ∈ keys.map (DeclKey.renamed declared)) =
      (s.declarations.filter fun d => d.key ∈ keys).map (Declaration.renamed declared) := by
    rw [List.filter_map]
    congr 1
    apply List.filter_congr
    intro d hd
    have hiff := renamed_mem_iff hapart (hs d hd)
    have hkey : (d.renamed declared).key = d.key.renamed declared := Declaration.renamed_key declared d
    simp only [Function.comp_apply, hkey, hiff]
  unfold Service.restricted Service.renamed ServiceClass.exposedMethods
  dsimp only
  rw [hmethods, hdeclarations]

/-- Keys that suffice still do under their new names. -/
theorem Suffices.renamed (h : Suffices keys services) (hapart : StayApart (declaredKeys services) keys) :
    Suffices (keys.map (DeclKey.renamed (declaredKeys services))) (disambiguate services) := by
  refine ⟨?_, ?_⟩
  · intro s' hs' r' hr'
    obtain ⟨s, hs, rfl⟩ := List.mem_map.mp hs'
    rw [exposedReferences_renamed] at hr'
    obtain ⟨r, hr, rfl⟩ := List.mem_map.mp hr'
    exact List.mem_map_of_mem (h.signatures s hs r hr)
  · intro d' hd' hkey' r' hr'
    rw [allDeclarations_disambiguate] at hd'
    obtain ⟨d, hd, rfl⟩ := List.mem_map.mp hd'
    rw [Declaration.references_renamed] at hr'
    obtain ⟨r, hr, rfl⟩ := List.mem_map.mp hr'
    have hdeclared : d.key ∈ declaredKeys services := mem_declaredKeys_iff.mpr ⟨d, hd, rfl⟩
    rw [Declaration.renamed_key] at hkey'
    have hkey : d.key ∈ keys := (renamed_mem_iff hapart hdeclared).mp hkey'
    exact List.mem_map_of_mem (h.bodies d hd hkey r hr)

/-- Two lists of declared keys that give the keys of a restricted batch the same names rename it alike. -/
theorem renamed_congr {declared declared' : List DeclKey} (h : Suffices keys services)
    (hnames : ∀ k ∈ keys, distinctName declared' k = distinctName declared k) {s : Service}
    (hs : s ∈ services) :
    (s.restricted keys).renamed declared' = (s.restricted keys).renamed declared := by
  have hrefs : ∀ r : TypeRef, r.key ∈ keys → r.renamed declared' = r.renamed declared := by
    intro r hr
    unfold TypeRef.renamed
    rw [hnames r.key hr]
  have hmethods : s.api.exposedMethods.map (Method.mapReferences (.renamed declared')) =
      s.api.exposedMethods.map (Method.mapReferences (.renamed declared)) := by
    apply List.map_congr_left
    intro m hm
    apply Method.mapReferences_congr
    intro r hr
    exact hrefs r (h.signatures s hs r (List.mem_flatMap.mpr ⟨m, hm, hr⟩))
  -- What is left over is renamed by keys of the list only, in the declarations as in the methods.
  have hdeclarations : (s.declarations.filter fun d => d.key ∈ keys).map (Declaration.renamed declared') =
      (s.declarations.filter fun d => d.key ∈ keys).map (Declaration.renamed declared) := by
    apply List.map_congr_left
    intro d hd
    obtain ⟨hmem, hkey⟩ := List.mem_filter.mp hd
    have hkey : d.key ∈ keys := of_decide_eq_true hkey
    have hbody : d.mapReferences (.renamed declared') = d.mapReferences (.renamed declared) := by
      apply Declaration.mapReferences_congr
      intro r hr
      exact hrefs r (h.bodies d (List.mem_flatMap.mpr ⟨s, hs, hmem⟩) hkey r hr)
    unfold Declaration.renamed
    rw [hbody, hnames d.key hkey]
  unfold Service.restricted Service.renamed
  dsimp only
  rw [hmethods, hdeclarations]

/-! ## What clients need -/

/-- The keys that exposed methods of a batch lead to. -/
def neededKeys (services : List Service) : List DeclKey :=
  reachableKeys (allDeclarations services) services

/-- A batch without the methods that are not exposed, and without the declarations that no exposed method
leads to. -/
def trimmed (services : List Service) : List Service :=
  services.map (Service.restricted (neededKeys services))

theorem mem_neededKeys_iff {key : DeclKey} : key ∈ neededKeys services ↔ Reaches services key :=
  mem_reachableKeys_iff services key

/-- Where equal keys are declared equally, what is needed suffices. -/
theorem suffices_neededKeys
    (hsame : ∀ d ∈ allDeclarations services, ∀ d' ∈ allDeclarations services, d.key = d'.key → d = d') :
    Suffices (neededKeys services) services := by
  refine ⟨?_, ?_⟩
  · intro s hs r hr
    exact mem_neededKeys_iff.mpr (.signature hs hr)
  · intro d hd hkey r hr
    exact mem_neededKeys_iff.mpr ((mem_neededKeys_iff.mp hkey).mentioned hsame hd hr)

theorem mem_declaredKeys_trimmed_iff {key : DeclKey} :
    key ∈ declaredKeys (trimmed services) ↔ key ∈ declaredKeys services ∧ Reaches services key := by
  unfold trimmed
  rw [mem_declaredKeys_iff, mem_declaredKeys_iff, allDeclarations_restricted]
  simp only [List.mem_filter, decide_eq_true_eq, mem_neededKeys_iff]
  constructor
  · rintro ⟨d, ⟨hd, hreach⟩, rfl⟩
    exact ⟨⟨d, hd, rfl⟩, hreach⟩
  · rintro ⟨⟨d, hd, rfl⟩, hreach⟩
    exact ⟨d, ⟨hd, hreach⟩, rfl⟩

/-- No declaration that clients do not need ends up under the name and module of a key that they need. -/
def UnneededApart (services : List Service) : Prop :=
  ∀ u ∈ declaredKeys services, ¬Reaches services u → ∀ k, Reaches services k →
    u.renamed (declaredKeys services) ≠ k.renamed (declaredKeys services)

/-- A needed declaration whose name another module declares too shares the name with a needed declaration of
another module. -/
def NeededClash (services : List Service) : Prop :=
  ∀ k, Reaches services k → Clashes (declaredKeys services) k → Clashes (declaredKeys (trimmed services)) k

theorem stayApart_neededKeys (h : UnneededApart services) :
    StayApart (declaredKeys services) (neededKeys services) := by
  intro u hu hout k hk
  rw [mem_neededKeys_iff] at hout hk
  exact h u hu hout k hk

/-- What clients need has the same name with and without the rest. -/
theorem distinctName_trimmed (h : NeededClash services) {k : DeclKey} (hk : Reaches services k) :
    distinctName (declaredKeys (trimmed services)) k = distinctName (declaredKeys services) k := by
  by_cases hclash : Clashes (declaredKeys services) k
  · rw [distinctName_of_clashes hclash, distinctName_of_clashes (h k hk hclash)]
  · have hnot : ¬Clashes (declaredKeys (trimmed services)) k := by
      rintro ⟨hkey, k', hk', hname⟩
      have hkey := (mem_declaredKeys_trimmed_iff.mp hkey).1
      have hk' := (mem_declaredKeys_trimmed_iff.mp hk').1
      exact hclash ⟨hkey, k', hk', hname⟩
    rw [distinctName_of_not_clashes hclash, distinctName_of_not_clashes hnot]

/-- The names of a trimmed batch, given the keys that are in play. -/
theorem renamed_trimmed (h : UnneededApart services) :
    (trimmed services).map (Service.renamed (declaredKeys services)) =
      (disambiguate services).map
        (Service.restricted ((neededKeys services).map (DeclKey.renamed (declaredKeys services)))) := by
  unfold trimmed disambiguate
  rw [List.map_map, List.map_map]
  apply List.map_congr_left
  intro s hs
  apply renamed_restricted (stayApart_neededKeys h)
  intro d hd
  exact mem_declaredKeys_iff.mpr ⟨d, List.mem_flatMap.mpr ⟨s, hs, hd⟩, rfl⟩

/-- Where the names do not depend on the rest, a trimmed batch is renamed like the whole one. -/
theorem disambiguate_trimmed
    (hsame : ∀ d ∈ allDeclarations services, ∀ d' ∈ allDeclarations services, d.key = d'.key → d = d')
    (h : NeededClash services) :
    disambiguate (trimmed services) = (trimmed services).map (Service.renamed (declaredKeys services)) := by
  have hnames : ∀ k ∈ neededKeys services,
      distinctName (declaredKeys (trimmed services)) k = distinctName (declaredKeys services) k := by
    intro k hk
    exact distinctName_trimmed h (mem_neededKeys_iff.mp hk)
  unfold disambiguate
  apply List.map_congr_left
  intro s' hs'
  obtain ⟨s, hs, rfl⟩ := List.mem_map.mp hs'
  exact renamed_congr (suffices_neededKeys hsame) hnames hs

/-- Every batch in which equal keys are declared equally, and no declaration that is not needed takes the
place of one that is. A target gives the same for the trimmed batch under the names of the whole one; and it
gives the same for the trimmed batch by itself if the names that are needed clash with each other whenever
they clash at all. -/
theorem generateTarget_trimmed
    (hsame : ∀ d ∈ allDeclarations services, ∀ d' ∈ allDeclarations services, d.key = d'.key → d = d')
    (hapart : UnneededApart services) (target : Target) (m : Metadata) :
    generateTarget services target m =
        generateNamed ((trimmed services).map (Service.renamed (declaredKeys services))) target m ∧
      (NeededClash services →
        generateTarget services target m = generateTarget (trimmed services) target m) := by
  have hnamed : generateTarget services target m =
      generateNamed ((trimmed services).map (Service.renamed (declaredKeys services))) target m := by
    have hsuffices := (suffices_neededKeys hsame).renamed (stayApart_neededKeys hapart)
    rw [renamed_trimmed hapart, generateNamed_restricted hsuffices]
    exact generateTarget_eq_generateNamed services target m
  refine ⟨hnamed, ?_⟩
  intro hclash
  rw [hnamed, generateTarget_eq_generateNamed, disambiguate_trimmed hsame hclash]

/-! ## A record beside a needed one -/

/-- A service with a method that gives the record `User` of the module `a`, and with one that is not exposed
and gives a record of the module `b`. -/
def serviceBeside (name : String) : Service :=
  { language := .typeScript
    modulePath := "s"
    api :=
      { name := "S"
        methods :=
          [⟨"f", [], .named ⟨"User", "a", .record⟩, .rpc, none⟩,
            ⟨"g", [], .named ⟨name, "b", .record⟩, .http, none⟩]
        docs := none }
    declarations := [⟨"User", "a", .record [], none⟩, ⟨name, "b", .record [], none⟩] }

/-- A service with a method that gives a record of the module `a`, and nothing else. -/
def serviceAlone (name : String) (fields : List Field) : Service :=
  { language := .typeScript
    modulePath := "s"
    api :=
      { name := "S"
        methods := [⟨"f", [], .named ⟨name, "a", .record⟩, .rpc, none⟩]
        docs := none }
    declarations := [⟨name, "a", .record fields, none⟩] }

/-- A service with a method that gives the record `AUser` of the module `a`, and with one that is not exposed
and takes a `User` of this module and of another one. -/
def serviceTakenOver : Service :=
  { language := .typeScript
    modulePath := "s"
    api :=
      { name := "S"
        methods :=
          [⟨"f", [], .named ⟨"AUser", "a", .record⟩, .rpc, none⟩,
            ⟨"g", [⟨"x", .named ⟨"User", "a", .record⟩, false, none⟩,
              ⟨"y", .named ⟨"User", "b", .record⟩, false, none⟩], .void, .http, none⟩]
        docs := none }
    declarations :=
      [⟨"User", "a", .record [⟨"hidden", false, .string⟩], none⟩, ⟨"User", "b", .record [], none⟩,
        ⟨"AUser", "a", .record [⟨"shown", false, .string⟩], none⟩] }

theorem unneededApart_iff :
    UnneededApart services ↔ StayApart (declaredKeys services) (neededKeys services) := by
  unfold UnneededApart StayApart
  simp only [mem_neededKeys_iff]

theorem neededClash_iff :
    NeededClash services ↔ ∀ k ∈ neededKeys services, Clashes (declaredKeys services) k →
      Clashes (declaredKeys (trimmed services)) k := by
  unfold NeededClash
  simp only [mem_neededKeys_iff]

/-- Whether some file of a target passes a test, before the files are put in order, and behind the path that
is used twice, if there is one. -/
def probed (services : List Service) (target : Target) (m : Metadata) (test : OutputFile → Bool) :
    Option (Option String × Bool) :=
  ((plan target.emitter.toLayout (disambiguate services)).bind fun planned =>
      planned.mapM (renderFile target.emitter m)).toOption.map
    fun rendered => (firstRepeated? [] ((allFiles target.emitter m rendered).map (·.path)),
      (allFiles target.emitter m rendered).any test)

theorem any_generateTarget {target : Target} {m : Metadata} {test : OutputFile → Bool} {found : Bool}
    (h : probed services target m test = some (none, found)) :
    ∃ files, generateTarget services target m = .ok files ∧ files.any test = found := by
  obtain ⟨rendered, hrun, hpair⟩ := toOption_map_eq_some_iff.mp h
  obtain ⟨hpaths, hfound⟩ := Prod.mk.inj hpair
  obtain ⟨planned, hplan, hrendered⟩ := bind_eq_ok_iff.mp hrun
  refine ⟨_, generateTarget_eq_ok_iff.mpr ⟨planned, rendered, hplan, hrendered, hpaths, rfl⟩, ?_⟩
  rw [(List.mergeSort_perm _ _).any_eq, hfound]

/-- Batches give different files if a test tells them apart. -/
theorem generateTarget_ne {services services' : List Service} {target : Target} {m : Metadata}
    {test : OutputFile → Bool} (h : probed services target m test = some (none, true))
    (h' : probed services' target m test = some (none, false)) :
    generateTarget services target m ≠ generateTarget services' target m := by
  obtain ⟨files, hfiles, hfound⟩ := any_generateTarget h
  obtain ⟨files', hfiles', hfound'⟩ := any_generateTarget h'
  intro heq
  rw [hfiles, hfiles'] at heq
  rw [Except.ok.inj heq, hfound'] at hfound
  cases hfound

/-- Beside a record of another name nothing changes, in no target. -/
theorem generateTarget_trimmed_beside :
    (∀ d ∈ allDeclarations [serviceBeside "Log"], ∀ d' ∈ allDeclarations [serviceBeside "Log"],
        d.key = d'.key → d = d') ∧
      UnneededApart [serviceBeside "Log"] ∧ NeededClash [serviceBeside "Log"] ∧
      trimmed [serviceBeside "Log"] = [serviceAlone "User" []] ∧
      ∀ target m, generateTarget [serviceBeside "Log"] target m = generateTarget [serviceAlone "User" []] target m := by
  have hneeded : neededKeys [serviceBeside "Log"] = [⟨"User", "a"⟩] := by cbv
  have htrimmed : trimmed [serviceBeside "Log"] = [serviceAlone "User" []] := by cbv
  have hsame : ∀ d ∈ allDeclarations [serviceBeside "Log"], ∀ d' ∈ allDeclarations [serviceBeside "Log"],
      d.key = d'.key → d = d' := by
    simp [allDeclarations, serviceBeside, Declaration.key]
  have hapart : UnneededApart [serviceBeside "Log"] := by
    rw [unneededApart_iff, hneeded]
    unfold StayApart
    decide
  have hclash : NeededClash [serviceBeside "Log"] := by
    rw [neededClash_iff, hneeded, htrimmed]
    unfold Clashes
    decide
  refine ⟨hsame, hapart, hclash, htrimmed, fun target m => ?_⟩
  rw [(generateTarget_trimmed hsame hapart target m).2 hclash, htrimmed]

/-- The record gets a longer name beside a `User` of another module. -/
theorem generateTarget_beside_ne :
    generateTarget [serviceBeside "User"] .kotlin .standard ≠
      generateTarget [serviceAlone "User" []] .kotlin .standard := by
  have hrenamed : plannedDeclarations (disambiguate [serviceBeside "User"]) =
      [⟨"AUser", "a", .record [], none⟩] := by
    cbv
  have hplain : plannedDeclarations (disambiguate [serviceAlone "User" []]) =
      [⟨"User", "a", .record [], none⟩] := by
    cbv
  -- The file for the record is one character longer.
  apply @generateTarget_ne _ _ _ _ fun f => f.path == "a.kt" && f.content.utf8ByteSize == 252
  · unfold probed plan ownedFiles
    rw [hrenamed]
    decide +kernel
  · unfold probed plan ownedFiles
    rw [hplain]
    decide +kernel

/-- The record that is needed is not the one that is given. -/
theorem generateTarget_takenOver_ne :
    generateTarget [serviceTakenOver] .kotlin .standard ≠
      generateTarget [serviceAlone "AUser" [⟨"shown", false, .string⟩]] .kotlin .standard := by
  have hover : plannedDeclarations (disambiguate [serviceTakenOver]) =
      [⟨"AUser", "a", .record [⟨"hidden", false, .string⟩], none⟩] := by
    cbv
  have hplain : plannedDeclarations (disambiguate [serviceAlone "AUser" [⟨"shown", false, .string⟩]]) =
      [⟨"AUser", "a", .record [⟨"shown", false, .string⟩], none⟩] := by
    cbv
  -- The word `hidden` is one character longer than `shown`.
  apply @generateTarget_ne _ _ _ _ fun f => f.path == "a.kt" && f.content.utf8ByteSize == 284
  · unfold probed plan ownedFiles
    rw [hover]
    decide +kernel
  · unfold probed plan ownedFiles
    rw [hplain]
    decide +kernel

/-- Beside a `User` of another module the record gets another name; and where two records `User` that are not
needed are renamed, one of them is given in place of the `AUser` that is needed. -/
theorem generateTarget_not_trimmed :
    ((∀ d ∈ allDeclarations [serviceBeside "User"], ∀ d' ∈ allDeclarations [serviceBeside "User"],
          d.key = d'.key → d = d') ∧
        UnneededApart [serviceBeside "User"] ∧
        generateTarget [serviceBeside "User"] .kotlin .standard ≠
          generateTarget (trimmed [serviceBeside "User"]) .kotlin .standard) ∧
      (∀ d ∈ allDeclarations [serviceTakenOver], ∀ d' ∈ allDeclarations [serviceTakenOver],
          d.key = d'.key → d = d') ∧
        NeededClash [serviceTakenOver] ∧
        generateTarget [serviceTakenOver] .kotlin .standard ≠
          generateTarget (trimmed [serviceTakenOver]) .kotlin .standard := by
  refine ⟨⟨?_, ?_, ?_⟩, ?_, ?_, ?_⟩
  · simp [allDeclarations, serviceBeside, Declaration.key]
  · have hneeded : neededKeys [serviceBeside "User"] = [⟨"User", "a"⟩] := by cbv
    rw [unneededApart_iff, hneeded]
    unfold StayApart
    decide
  · have htrimmed : trimmed [serviceBeside "User"] = [serviceAlone "User" []] := by cbv
    rw [htrimmed]
    exact generateTarget_beside_ne
  · simp [allDeclarations, serviceTakenOver, Declaration.key]
  · have hneeded : neededKeys [serviceTakenOver] = [⟨"AUser", "a"⟩] := by cbv
    -- Nothing clashes with the record that is needed, so that there is nothing to show.
    have hno : ¬Clashes (declaredKeys [serviceTakenOver]) ⟨"AUser", "a"⟩ := by
      unfold Clashes
      decide
    rw [neededClash_iff, hneeded]
    intro k hk hclash
    rw [List.mem_singleton.mp hk] at hclash
    exact absurd hclash hno
  · have htrimmed : trimmed [serviceTakenOver] = [serviceAlone "AUser" [⟨"shown", false, .string⟩]] := by cbv
    rw [htrimmed]
    exact generateTarget_takenOver_ne

end ServiceStubs
