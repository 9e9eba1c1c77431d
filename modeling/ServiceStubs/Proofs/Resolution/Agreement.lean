import ServiceStubs.Proofs.Resolution.Tracking

/-!
# Services that agree

Services are built one by one, each with a table of its own. Where two of them declare the same key, they
declare it equally, whichever methods have led there, in whichever order, and whether clients can call them
or not.

* `others_tracks` keeps the invariant of the table in the second phase;
* `buildService_tracks` says that the declarations of a service are those of an explained table;
* `buildService_agree` compares two services.
-/

namespace ServiceStubs.Resolution

open Source

variable {library : Library} {load : String → Option String}

/-! ## Both phases -/

/-- The computation keeps the table explained, whether it succeeds or not. -/
def KeepsTrack (library : Library) (α : Type) (x _ : Resolve α) : Prop :=
  ∀ t, Tracks library t → Ends x t (fun _ t' => Tracks library t') (fun t' => Tracks library t')

theorem keepsTrack_stepwise (library : Library) : Stepwise (KeepsTrack library) := by
  constructor
  · exact fun a t ht => ht
  · exact fun e t ht => ht
  · intro α β x y f g hx hf t ht
    exact (hx t ht).bind fun a t' ht' => hf a t' ht'
  · intro α β result f g h t ht
    cases result with
    | ok a => exact h a rfl t ht
    | error e => exact ht

/-- The resolver of a scope keeps the table explained: its budget is larger than the library. -/
theorem resolve_keepsTrack (hserves : library.Serves load) (hload : Identified load) {scope : Scope}
    (hscope : scope.library.find? = library.find?) (hsize : library.size ≤ scope.library.size) {m : Module}
    (hm : library.Holds m) (name : String) :
    KeepsTrack library _ (scope.resolve m name) (scope.resolve m name) := by
  intro t ht
  have hbudget : library.size < scope.library.size + 1 + t.unfinished := by omega
  refine (resolveNamed_follows hserves hload hscope _ m name hm t ht hbudget).mono ?_ fun _ h => h
  exact fun _ t' h => h.1

section

variable {m : Module}

/-- A module of the library stands where it is inserted already. -/
theorem find?_insert (hm : library.Holds m) : (library.insert m).find? = library.find? := by
  funext path
  rw [Library.find?_insert]
  split
  · rename_i hpath
    rw [hpath]
    exact hm.found.symm
  · rfl

theorem signature_tracks (hserves : library.Serves load) (hload : Identified load) (hm : library.Holds m)
    (lenient : Bool) (c : ExportedClass) (candidate : Candidate) :
    KeepsTrack library _ (signature ⟨library.insert m, lenient⟩ m c candidate)
      (signature ⟨library.insert m, lenient⟩ m c candidate) := by
  have hsize : library.size ≤ (library.insert m).size := Nat.le_add_right _ _
  exact signature_related (keepsTrack_stepwise library)
    ⟨rfl, resolve_keepsTrack hserves hload (find?_insert hm) hsize hm⟩ rfl rfl candidate

theorem callableMethods_tracks (hserves : library.Serves load) (hload : Identified load)
    (hm : library.Holds m) (c : ExportedClass) (candidates : List Candidate) :
    Ends (callableMethods (library.insert m) m c candidates) [] (fun _ t => Tracks library t)
      (fun t => Tracks library t) := by
  have hall := (keepsTrack_stepwise library).mapM (candidates.filter Candidate.isCallable)
    fun candidate _ => signature_tracks hserves hload hm false c candidate
  exact hall [] (tracks_nil library)

/-- A method that clients do not have keeps the table explained, also where its signature is given up. -/
theorem other_tracks (hserves : library.Serves load) (hload : Identified load) (hm : library.Holds m)
    (c : ExportedClass) (candidate : Candidate) {t : Table} (ht : Tracks library t) :
    Tracks library (other (library.insert m) m c candidate t).2 := by
  have hsig := signature_tracks hserves hload hm true c candidate t ht
  unfold other
  rcases hs : start (signature ⟨library.insert m, true⟩ m c candidate) t with ⟨r, t'⟩
  cases r with
  | ok method => exact hsig.ok hs
  | error e => exact Tracks.dropUnfinished (hsig.error hs)

theorem others_tracks (hserves : library.Serves load) (hload : Identified load) (hm : library.Holds m)
    (c : ExportedClass) (pairs : List (Candidate × Option Method)) {t : Table} (ht : Tracks library t) :
    Tracks library (others (library.insert m) m c pairs t).2 := by
  induction pairs generalizing t with
  | nil => exact ht
  | cons pair rest ih =>
    obtain ⟨candidate, resolved⟩ := pair
    cases resolved with
    | some method => exact ih ht
    | none => exact ih (other_tracks hserves hload hm c candidate ht)

end

/-! ## Services -/

/-- A requested file that can be loaded is a module of the library. -/
theorem holds_of_read (hserves : library.Serves load) {path text : String} {m : Module}
    (hpath : Canonical path) (htext : load path = some text) (hread : Module.read path text = .ok m) :
    library.Holds m := by
  obtain rfl : m.path = path := Module.path_read hread
  refine ⟨hpath, ?_⟩
  unfold Library.Has
  rw [hserves.find, htext, Option.map_some, hread]

/-- The declarations of a service are those of a table that modules of the library explain. -/
theorem buildService_tracks (hserves : library.Serves load) (hload : Identified load)
    {exposure : String → ClassExposure} {r : BuildRequest} {s : Service} (hpath : Canonical r.path)
    (htext : load r.path = some r.text) (h : buildService library exposure r = .ok s) :
    ∃ t, Tracks library t ∧ s.declarations = t.declarations := by
  obtain ⟨m, c, hread, -, h⟩ := classService_of_build h
  have hm : library.Holds m := holds_of_read hserves hpath htext hread
  obtain ⟨cs, methods, t, -, hrun, -, hdeclarations⟩ := phases_of_classService h
  have hfirst : Tracks library t := (callableMethods_tracks hserves hload hm c cs).ok hrun
  exact ⟨_, others_tracks hserves hload hm c (assigned cs methods) hfirst, hdeclarations⟩

/-- Two requests for files of a loader in which no two files have the same identity; their paths are canonical,
as normalised ones are. If both services can be built, and both declare a key, they declare it equally. -/
theorem buildService_agree (hserves : library.Serves load) (hload : Identified load)
    {exposure exposure' : String → ClassExposure} {r r' : BuildRequest} {s s' : Service}
    (hpath : Canonical r.path) (hpath' : Canonical r'.path) (htext : load r.path = some r.text)
    (htext' : load r'.path = some r'.text) (h : buildService library exposure r = .ok s)
    (h' : buildService library exposure' r' = .ok s') :
    ∀ d ∈ s.declarations, ∀ d' ∈ s'.declarations, d.key = d'.key → d = d' := by
  obtain ⟨t, ht, hdeclarations⟩ := buildService_tracks hserves hload hpath htext h
  obtain ⟨t', ht', hdeclarations'⟩ := buildService_tracks hserves hload hpath' htext' h'
  intro d hd d' hd' hkey
  rw [hdeclarations] at hd
  rw [hdeclarations'] at hd'
  exact ht.declaration_eq ht' hserves hload hd hd' hkey

/-! ## Two services with a record in common -/

/-- The identities of the files of a list are compared with each other. -/
theorem identified_lookup {files : List (String × String)}
    (h : ∀ path ∈ files.map Prod.fst, ∀ path' ∈ files.map Prod.fst,
      modulePathOf path = modulePathOf path' → path = path') :
    Identified fun path => files.lookup path := by
  have hmem : ∀ path, (files.lookup path).isSome → path ∈ files.map Prod.fst := by
    intro path hpath
    obtain ⟨text, htext⟩ := Option.isSome_iff_exists.mp hpath
    obtain ⟨before, after, rfl, -⟩ := List.lookup_eq_some_iff.mp htext
    simp
  intro path path' _ _ hpath hpath' heq
  exact h path (hmem path hpath) path' (hmem path' hpath') heq

/-- Two records with a service that leads to them, and another service that leads to them by a method that
clients cannot call. -/
def sharedFiles : List (String × String) :=
  [("s.ts", "type M = {n: N}\nexport type N = {m: M}\nexport class S {f(m: M) {}}"),
    ("t.ts", "import {N} from './s'\nexport class T {g(n: N) {}}")]

/-- The request for the service of one of these files. -/
def sharedRequest (path : String) : BuildRequest :=
  { path := path
    text := (sharedFiles.lookup path).getD ""
    className := none }

/-- Clients can call the methods of `S`. -/
def onlyS (className : String) : ClassExposure :=
  if className = "S" then ⟨.rpc, []⟩ else ⟨.http, []⟩

/-- The records are found in different orders, and they are the same. -/
theorem buildService_agree_shared :
    ∃ s s', buildService (Library.ofFiles sharedFiles) onlyS (sharedRequest "s.ts") = .ok s ∧
      buildService (Library.ofFiles sharedFiles) onlyS (sharedRequest "t.ts") = .ok s' ∧
      s.declarations.map Declaration.key = [⟨"M", "s"⟩, ⟨"N", "s"⟩] ∧
      s'.declarations.map Declaration.key = [⟨"N", "s"⟩, ⟨"M", "s"⟩] ∧
      s.declarations = s'.declarations.reverse := by
  have hbuilt : ∃ s, buildService (Library.ofFiles sharedFiles) onlyS (sharedRequest "s.ts") = .ok s ∧
      s.declarations.map Declaration.key = [⟨"M", "s"⟩, ⟨"N", "s"⟩] :=
    toOption_map_eq_some_iff.mp (by decide +kernel)
  have hbuilt' : ∃ s, buildService (Library.ofFiles sharedFiles) onlyS (sharedRequest "t.ts") = .ok s ∧
      s.declarations.map Declaration.key = [⟨"N", "s"⟩, ⟨"M", "s"⟩] :=
    toOption_map_eq_some_iff.mp (by decide +kernel)
  obtain ⟨s, hs, hkeys⟩ := hbuilt
  obtain ⟨s', hs', hkeys'⟩ := hbuilt'
  have hpath : Normalised "s.ts" := normalised_of_length (by decide) (by decide)
  have hpath' : Normalised "t.ts" := normalised_of_length (by decide) (by decide)
  have hidentified : Identified fun path => sharedFiles.lookup path :=
    identified_lookup (by decide +kernel)
  -- No file shares its identity with another, so that equal keys name equal records.
  have hagree := buildService_agree (serves_ofFiles sharedFiles) hidentified
    hpath.canonical hpath'.canonical rfl rfl hs hs'
  refine ⟨s, s', hs, hs', hkeys, hkeys', ?_⟩
  obtain ⟨m, n, hm⟩ : ∃ m n, s.declarations = [m, n] :=
    List.length_eq_two.mp (by simpa using congrArg List.length hkeys)
  obtain ⟨n', m', hn⟩ : ∃ n' m', s'.declarations = [n', m'] :=
    List.length_eq_two.mp (by simpa using congrArg List.length hkeys')
  rw [hm, hn] at hagree
  rw [hm] at hkeys
  rw [hn] at hkeys'
  simp only [List.map_cons, List.map_nil, List.cons.injEq, and_true] at hkeys hkeys'
  have hmm : m = m' := hagree m (by simp) m' (by simp) (hkeys.1.trans hkeys'.2.symm)
  have hnn : n = n' := hagree n (by simp) n' (by simp) (hkeys.2.trans hkeys'.1.symm)
  rw [hm, hn, hmm, hnn]
  rfl

end ServiceStubs.Resolution
