import ServiceStubs.Proofs.Resolution.Agreement
import ServiceStubs.Proofs.Resolution.Provenance
import ServiceStubs.Proofs.Target.OutputPaths

/-!
# Keys of references

A reference names a declaration by its key: the name, and the identity of the module. Files of one directory that
differ in their extensions have one identity.

* `SameModule` says so of two files, and `modulePathOf_eq_iff` that there are no others;
* `resolve_key` is the key of a reference;
* `buildService_keys_eq_iff` says when references to two files have one key;
* `buildService_merges` is a service in which the declaration of one file stands for that of another.
-/

namespace ServiceStubs

namespace Source

/-! ## Files of a module -/

/-- The name of the file at a path. -/
def fileName (path : String) : String :=
  (Text.splitOn '/' path).getLastD ""

/-- A path without the extension of its file, and without a `.d` before it. -/
def bareName (path : String) : String :=
  let stem := String.ofList (dropExtension path.toList)
  (Text.stripEnd? stem ".d").getD stem

/-- How many climbs a path begins with, and the directories that it names after them. Segments `.` in front of
them do not count. -/
def heading (path : String) : Nat × List String :=
  let (climbs, rest) := takeParents (dropHere path.toList)
  (climbs, directorySegments (String.ofList rest))

/-- The files lie in one directory, and their names differ in their extensions at most. -/
def SameModule (path path' : String) : Prop :=
  heading path = heading path' ∧ bareName (fileName path) = bareName (fileName path')

theorem dropExtension_append_slash (front : List Char) {file : List Char} (h : '/' ∉ file) :
    dropExtension (front ++ '/' :: file) = front ++ '/' :: dropExtension file := by
  have hreverse : (front ++ '/' :: file).reverse = file.reverse ++ '/' :: front.reverse := by simp
  unfold dropExtension
  rw [hreverse, List.dropWhile_append]
  rcases hfile : file.reverse.dropWhile (fun c => c != '.' && c != '/') with _ | ⟨c, stem⟩
  · rfl
  · -- What ends the extension is a dot, since there is no separator.
    have hmem : c ∈ file.reverse := (List.dropWhile_sublist _).subset (hfile ▸ List.mem_cons_self)
    have hc : (c != '.' && c != '/') = false := by
      have hnonempty : file.reverse.dropWhile (fun c => c != '.' && c != '/') ≠ [] := by
        rw [hfile]
        simp
      have hhead := List.head_dropWhile_not _ hnonempty
      simpa [hfile] using hhead
    have hne : c ≠ '/' := by
      rintro rfl
      exact h (List.mem_reverse.mp hmem)
    obtain rfl : c = '.' := by simpa [hne] using hc
    simp

theorem bareName_append_slash (front : String) {file : String} (h : '/' ∉ file.toList) :
    bareName (front ++ "/" ++ file) = front ++ "/" ++ bareName file := by
  have hchars : ∀ back : String, (front ++ "/" ++ back).toList = front.toList ++ '/' :: back.toList := by simp
  have hstem : String.ofList (dropExtension (front ++ "/" ++ file).toList) =
      front ++ "/" ++ String.ofList (dropExtension file.toList) := by
    rw [hchars, dropExtension_append_slash _ h]
    apply String.toList_inj.mp
    simp
  unfold bareName
  dsimp only
  rw [hstem]
  generalize String.ofList (dropExtension file.toList) = stem
  -- The ending does not reach beyond the separator.
  have hends : Text.endsWith (front ++ "/" ++ stem) ".d" = Text.endsWith stem ".d" := by
    rw [Bool.eq_iff_iff]
    unfold Text.endsWith
    rw [List.isSuffixOf_iff_suffix, List.isSuffixOf_iff_suffix, hchars,
      Text.suffix_append_sep_iff (by decide)]
  rcases hstrip : Text.stripEnd? stem ".d" with _ | bare
  · have hnone : Text.stripEnd? (front ++ "/" ++ stem) ".d" = none := by
      unfold Text.stripEnd? at hstrip ⊢
      rw [hends]
      split at hstrip
      · cases hstrip
      · rename_i hnot
        rw [if_neg hnot]
    rw [hnone]
    rfl
  · rw [Text.eq_append_of_stripEnd? hstrip, ← String.append_assoc, Text.stripEnd?_append_self]
    rfl

theorem slash_not_mem_bareName {file : String} (h : '/' ∉ file.toList) : '/' ∉ (bareName file).toList := by
  obtain ⟨extension, -, hfile⟩ := dropExtension_append file.toList
  obtain ⟨ending, -, hstem⟩ :=
    stripEnd?_append (String.ofList (dropExtension file.toList)) (show '/' ∉ ".d".toList by decide)
  rw [String.toList_ofList] at hstem
  intro hmem
  refine h ?_
  rw [hfile, hstem]
  exact List.mem_append_left _ (List.mem_append_left _ hmem)

/-- A path is spelled like its file, in the same directory. -/
theorem splitOn_bareName (path : String) :
    Text.splitOn '/' (bareName path) = directorySegments path ++ [bareName (fileName path)] := by
  unfold directorySegments fileName
  rcases Text.splitAt_last '/' path.toList with ⟨hnone, -⟩ | ⟨front, back, hpath, hback, -⟩
  · rw [Text.splitOn_of_not_mem hnone, Text.splitOn_of_not_mem (slash_not_mem_bareName hnone)]
    rfl
  · have hfile : '/' ∉ (String.ofList back).toList := by rwa [String.toList_ofList]
    obtain rfl : path = String.ofList front ++ "/" ++ String.ofList back := by
      apply String.toList_inj.mp
      rw [hpath]
      simp
    rw [bareName_append_slash _ hfile, Text.splitOn_append, Text.splitOn_append, Text.splitOn_of_not_mem hfile,
      Text.splitOn_of_not_mem (slash_not_mem_bareName hfile), List.dropLast_concat, List.getLastD_concat]

/-! ## Identities -/

theorem splitOn_eq_concat (path : String) :
    Text.splitOn '/' path = directorySegments path ++ [fileName path] := by
  have hne := Text.splitOn_ne_nil '/' path
  unfold directorySegments fileName
  rw [List.getLastD_eq_getLast?, List.getLast?_eq_getLast_of_ne_nil hne, Option.getD_some,
    List.dropLast_concat_getLast hne]

theorem fileName_append (front back : String) : fileName (front ++ "/" ++ back) = fileName back := by
  have hsplit := Text.splitOn_append front back
  rw [splitOn_eq_concat, splitOn_eq_concat back, ← List.append_assoc] at hsplit
  exact List.singleton_inj.mp (List.append_inj' hsplit (by simp)).2

theorem fileName_dropHere (path : List Char) :
    fileName (String.ofList (dropHere path)) = fileName (String.ofList path) := by
  fun_induction dropHere path with
  | case1 rest ih =>
    rw [ih, ← fileName_append "." (String.ofList rest)]
    refine congrArg fileName (String.toList_inj.mp ?_)
    simp
  | case2 path hnot => rfl

theorem fileName_takeParents (path : List Char) :
    fileName (String.ofList (takeParents path).2) = fileName (String.ofList path) := by
  fun_induction takeParents path with
  | case1 rest ih =>
    rw [ih, ← fileName_append ".." (String.ofList rest)]
    refine congrArg fileName (String.toList_inj.mp ?_)
    simp
  | case2 path hnot => rfl

/-- The segments of the identity of a module are names for the climbs, the directories after them, and the name of
the file without its extension. -/
theorem splitOn_modulePathOf (path : String) :
    Text.splitOn '/' (modulePathOf path) =
      List.replicate (heading path).1 parentSegment ++ (heading path).2 ++ [bareName (fileName path)] := by
  have hfile : fileName (String.ofList (takeParents (dropHere path.toList)).2) = fileName path := by
    rw [fileName_takeParents, fileName_dropHere, String.ofList_toList]
  unfold heading
  rw [← hfile]
  dsimp only
  generalize hparents : takeParents (dropHere path.toList) = parents
  obtain ⟨count, rest⟩ := parents
  have hidentity : modulePathOf path =
      String.join (List.replicate count (parentSegment ++ "/")) ++ bareName (String.ofList rest) := by
    unfold modulePathOf bareName
    rw [hparents, String.toList_ofList]
  have hjoined : Text.splitOn '/' (modulePathOf path) =
      List.replicate count parentSegment ++ Text.splitOn '/' (bareName (String.ofList rest)) := by
    unfold Text.splitOn
    rw [hidentity, String.toList_append, splitAt_parents, List.map_append, List.map_replicate,
      String.ofList_toList]
  rw [hjoined, splitOn_bareName, List.append_assoc]

/-- Without a directory of the name that stands for climbs, the identity is that of the module. -/
theorem modulePathOf_eq_iff {path path' : String} (h : parentSegment ∉ (heading path).2)
    (h' : parentSegment ∉ (heading path').2) : modulePathOf path = modulePathOf path' ↔ SameModule path path' := by
  constructor
  · intro heq
    have hsegments := congrArg (Text.splitOn '/') heq
    rw [splitOn_modulePathOf, splitOn_modulePathOf] at hsegments
    obtain ⟨hdirectories, hfile⟩ := List.append_inj' hsegments (by simp)
    -- The climbs can be counted, since nothing else is spelled like them.
    have hclimbs := congrArg (List.count parentSegment) hdirectories
    rw [List.count_append, List.count_append, List.count_replicate_self, List.count_replicate_self,
      List.count_eq_zero.mpr h, List.count_eq_zero.mpr h', Nat.add_zero, Nat.add_zero] at hclimbs
    rw [hclimbs] at hdirectories
    exact ⟨Prod.ext hclimbs (List.append_cancel_left hdirectories), List.singleton_inj.mp hfile⟩
  · rintro ⟨hheading, hfile⟩
    rw [← Text.intercalate_splitOn (modulePathOf path), splitOn_modulePathOf, hheading, hfile,
      ← splitOn_modulePathOf, Text.intercalate_splitOn]

end Source

/-! ## References -/

namespace Resolution

open Source

/-- In a module, the resolver of names can make the reference out of the name. -/
def Refers (library : Library) (m : Module) (name : String) (r : TypeRef) : Prop :=
  ∃ lenient, Yields (Scope.resolve ⟨library, lenient⟩ m name) (.named r)

variable {library : Library}

theorem unknownMeaning_ne_named (scope : Scope) (m : Module) (name : String) (r : TypeRef) :
    unknownMeaning scope m name ≠ .ok (.named r) := by
  unfold unknownMeaning
  dsimp only
  split
  · intro h
    cases h
  · intro h
    cases h

/-- A reference has the name of the declaration that has been located, and the identity of its module. -/
theorem resolve_key {m : Module} {name : String} {r : TypeRef} (h : Refers library m name r) :
    ∃ l, locate library m name = .ok (some l) ∧ r.key = ⟨l.name, l.module.modulePath⟩ := by
  obtain ⟨lenient, h⟩ := h
  have hunknown : ∀ {m name}, ¬Yields (ofSearch (unknownMeaning ⟨library, lenient⟩ m name)) (.named r) :=
    fun h => unknownMeaning_ne_named _ _ _ r (yields_ofSearch.mp h)
  unfold Scope.resolve resolveNamed resolveWith at h
  obtain ⟨found, hlocate, h⟩ := h.bind
  cases found with
  | none => exact absurd h hunknown
  | some l =>
    refine ⟨l, yields_ofSearch.mp hlocate, ?_⟩
    obtain ⟨t, -, h⟩ := h.bind
    dsimp only at h
    -- Whether the declaration is in the table already or enters it, the reference names its key.
    split at h
    · cases yields_pure.mp h
      rfl
    · exact absurd h hunknown
    · obtain ⟨-, -, h⟩ := h.bind
      obtain ⟨body, -, h⟩ := h.bind
      obtain ⟨-, -, h⟩ := h.bind
      cases yields_pure.mp h
      rfl

/-- References of a build that are located in different files, under one name. Unless a directory has the name that
stands for climbs, they have one key if and only if the files lie in one directory and differ in their extensions
only. Under one key the service has one declaration for both. If no two files have the same identity, the keys are
different, and whatever the service declares under the key is the declaration of the file. -/
theorem buildService_keys_eq_iff {exposure : String → ClassExposure} {request : BuildRequest} {main : Module}
    {s : Service} (hread : Module.read request.path request.text = .ok main)
    (hbuild : buildService library exposure request = .ok s) {m m' : Module} {name name' : String} {r r' : TypeRef}
    (hr : Refers (library.insert main) m name r) (hr' : Refers (library.insert main) m' name' r')
    {l l' : Location} (hl : locate (library.insert main) m name = .ok (some l))
    (hl' : locate (library.insert main) m' name' = .ok (some l')) (hname : l.name = l'.name)
    (hfile : l.module.path ≠ l'.module.path) :
    (parentSegment ∉ (heading l.module.path).2 → parentSegment ∉ (heading l'.module.path).2 →
        (r.key = r'.key ↔ SameModule l.module.path l'.module.path)) ∧
      (r.key = r'.key → ∀ d ∈ s.declarations, ∀ d' ∈ s.declarations, d.key = r.key → d'.key = r'.key → d = d') ∧
      ∀ load, library.Serves load → Identified load → Canonical request.path →
        load request.path = some request.text → (library.insert main).Holds m → (library.insert main).Holds m' →
        r.key ≠ r'.key ∧ ∀ d ∈ s.declarations, d.key = r.key →
          ∃ found, l.module.definition? l.name = some found ∧ d.docs = found.docs ∧
            Gives (bareBody library l.module found.definition) d.body := by
  have hkey : r.key = ⟨l.name, l.module.modulePath⟩ := by
    obtain ⟨located, hlocated, hkey⟩ := resolve_key hr
    rw [hl] at hlocated
    cases hlocated
    exact hkey
  have hkey' : r'.key = ⟨l'.name, l'.module.modulePath⟩ := by
    obtain ⟨located, hlocated, hkey⟩ := resolve_key hr'
    rw [hl'] at hlocated
    cases hlocated
    exact hkey
  have hidentity : r.key = r'.key ↔ modulePathOf l.module.path = modulePathOf l'.module.path := by
    rw [hkey, hkey', hname]
    unfold Module.modulePath
    simp
  refine ⟨fun hnamed hnamed' => hidentity.trans (modulePathOf_eq_iff hnamed hnamed'), ?_, ?_⟩
  · intro heq d hd d' hd' hdkey hdkey'
    obtain ⟨_, _, -, -, hclass⟩ := classService_of_build hbuild
    exact List.inj_on_of_nodup_map (classService_references hclass).1 hd hd' (by rw [hdkey, hdkey', heq])
  · intro load hserves hload hpath htext hm hm'
    -- The requested file is in the library already.
    have hfind : (library.insert main).find? = library.find? :=
      find?_insert (holds_of_read hserves hpath htext hread)
    have hholds : ∀ {m}, (library.insert main).Holds m → library.Holds m := by
      rintro m ⟨hcanonical, hfound⟩
      refine ⟨hcanonical, ?_⟩
      unfold Library.Has at hfound ⊢
      rwa [← hfind]
    rw [locate_congr hfind] at hl hl'
    have howner : library.Holds l.module := holds_stays hserves (hholds hm) hl
    have howner' : library.Holds l'.module := holds_stays hserves (hholds hm') hl'
    refine ⟨fun heq => hfile ?_, fun d hd hdkey => ?_⟩
    · exact hload _ _ howner.canonical howner'.canonical (howner.isSome_load hserves)
        (howner'.isSome_load hserves) (hidentity.mp heq)
    · obtain ⟨t, ht, hdeclarations⟩ := buildService_tracks hserves hload hpath htext hbuild
      rw [hdeclarations] at hd
      obtain ⟨slot, hslot, hdeclared⟩ := Table.mem_declarations.mp hd
      obtain ⟨owner, found, hexplains⟩ := ht.explained slot hslot
      obtain ⟨hslotKey, hdocs, hbody⟩ := hexplains.declaration d hdeclared
      have hslotEq : slot.key = ⟨l.name, l.module.modulePath⟩ := by rw [← hslotKey, hdkey, hkey]
      have hsame : owner.modulePath = l.module.modulePath := by rw [hexplains.path, hslotEq]
      obtain rfl : owner = l.module := Library.Holds.eq hserves hload hexplains.holds howner hsame
      have hfound := hexplains.defines
      rw [hslotEq] at hfound
      exact ⟨found, hfound, hdocs, hbody⟩

/-! ## Two records of one name -/

/-- A request for a class that takes two records, each imported under a name of its own. -/
def recordsRequest (specifier specifier' : String) : BuildRequest :=
  { path := "s.ts"
    text := "import { A } from '" ++ specifier ++ "'\nimport { A as B } from '" ++ specifier' ++
      "'\nexport class S { f(a: A, b: B): void {} }"
    className := none }

/-- The file of the request, and two files that declare records of one name with different fields. -/
def recordFiles (request : BuildRequest) (file file' : String) : List (String × String) :=
  [(request.path, request.text), (file, "export interface A { x: string }"),
    (file', "export interface A { y: number }")]

/-- Where a name of a module is located: the path of the file, and the name there. -/
def locatedAt (library : Library) (m : Module) (name : String) : Option (String × String) :=
  match locate library m name with
  | .ok (some l) => some (l.module.path, l.name)
  | _ => none

/-- What the resolver of names makes of a name when the table is empty. -/
def referenceAt (library : Library) (m : Module) (name : String) : Option TypeRef :=
  match (start (Scope.resolve ⟨library, false⟩ m name) []).1 with
  | .ok (.named r) => some r
  | _ => none

theorem exists_of_locatedAt {m : Module} {name path declared : String}
    (h : locatedAt library m name = some (path, declared)) :
    ∃ l, locate library m name = .ok (some l) ∧ l.module.path = path ∧ l.name = declared := by
  unfold locatedAt at h
  split at h
  · rename_i l hlocate
    cases h
    exact ⟨l, hlocate, rfl, rfl⟩
  · cases h

theorem refers_of_referenceAt {m : Module} {name : String} {r : TypeRef}
    (h : referenceAt library m name = some r) : Refers library m name r := by
  unfold referenceAt at h
  rcases hrun : start (Scope.resolve ⟨library, false⟩ m name) [] with ⟨result, t⟩
  rw [hrun] at h
  dsimp only at h
  split at h
  · cases h
    exact ⟨false, [], t, hrun⟩
  · cases h

/-- The names of the fields that a service declares under its keys. -/
def declaredFields (s : Service) : List (DeclKey × List String) :=
  s.declarations.map fun d => (d.key, match d.body with
    | .record fields => fields.map (·.name)
    | _ => [])

/-- The keys of the references in the signatures of a service. -/
def signatureKeys (s : Service) : List DeclKey :=
  s.api.methods.flatMap fun method => method.references.map (·.key)

/-- What a build shows: the files in which the two names of the class are located, the references that are made
out of them, the keys in the signatures, and the fields of the declarations. -/
structure Sighting where
  located : Option (String × String)
  located' : Option (String × String)
  reference : Option TypeRef
  reference' : Option TypeRef
  keys : List DeclKey
  declared : List (DeclKey × List String)
deriving DecidableEq

def sighting (library : Library) (m : Module) (s : Service) : Sighting :=
  { located := locatedAt library m "A"
    located' := locatedAt library m "B"
    reference := referenceAt library m "A"
    reference' := referenceAt library m "B"
    keys := signatureKeys s
    declared := declaredFields s }

/-- What the build of a request shows, if there is a service. -/
def sightingOf (request : BuildRequest) (file file' : String) : Option Sighting :=
  let library := Library.ofFiles (recordFiles request file file')
  match Module.read request.path request.text, buildService library onlyS request with
  | .ok m, .ok s => some (sighting (library.insert m) m s)
  | _, _ => none

theorem exists_of_sightingOf {request : BuildRequest} {file file' : String} {seen : Sighting}
    (h : sightingOf request file file' = some seen) :
    ∃ m s, Module.read request.path request.text = .ok m ∧
      buildService (Library.ofFiles (recordFiles request file file')) onlyS request = .ok s ∧
      sighting ((Library.ofFiles (recordFiles request file file')).insert m) m s = seen := by
  unfold sightingOf at h
  dsimp only at h
  split at h
  · rename_i m s hread hbuild
    exact ⟨m, s, hread, hbuild, Option.some.inj h⟩
  · cases h

/-- The names of the class stand for records of different files. The references to them are equal nevertheless, and
the service declares the record of the first file only. -/
def Merges (request : BuildRequest) (file file' : String) (r : TypeRef) : Prop :=
  ∃ m s l l', Module.read request.path request.text = .ok m ∧
    buildService (Library.ofFiles (recordFiles request file file')) onlyS request = .ok s ∧
    locate ((Library.ofFiles (recordFiles request file file')).insert m) m "A" = .ok (some l) ∧
    locate ((Library.ofFiles (recordFiles request file file')).insert m) m "B" = .ok (some l') ∧
    l.name = l'.name ∧ l.module.path = file ∧ l'.module.path = file' ∧
    Refers ((Library.ofFiles (recordFiles request file file')).insert m) m "A" r ∧
    Refers ((Library.ofFiles (recordFiles request file file')).insert m) m "B" r ∧
    signatureKeys s = [r.key, r.key] ∧ declaredFields s = [(r.key, ["x"])]

theorem merges_of_sightingOf {request : BuildRequest} {file file' : String} {r : TypeRef}
    (h : sightingOf request file file' =
      some ⟨some (file, "A"), some (file', "A"), some r, some r, [r.key, r.key], [(r.key, ["x"])]⟩) :
    Merges request file file' r := by
  obtain ⟨m, s, hread, hbuild, hseen⟩ := exists_of_sightingOf h
  obtain ⟨l, hl, hpath, hname⟩ := exists_of_locatedAt (congrArg Sighting.located hseen)
  obtain ⟨l', hl', hpath', hname'⟩ := exists_of_locatedAt (congrArg Sighting.located' hseen)
  exact ⟨m, s, l, l', hread, hbuild, hl, hl', by rw [hname, hname'], hpath, hpath',
    refers_of_referenceAt (congrArg Sighting.reference hseen),
    refers_of_referenceAt (congrArg Sighting.reference' hseen),
    congrArg Sighting.keys hseen, congrArg Sighting.declared hseen⟩

/-- Records of two directories have different keys, and the service declares them both. -/
theorem buildService_keys_eq_iff_apart :
    ∃ m s r r', buildService (Library.ofFiles (recordFiles (recordsRequest "./a/m" "./b/m") "a/m.ts" "b/m.ts")) onlyS
        (recordsRequest "./a/m" "./b/m") = .ok s ∧
      Refers ((Library.ofFiles (recordFiles (recordsRequest "./a/m" "./b/m") "a/m.ts" "b/m.ts")).insert m) m "A" r ∧
      Refers ((Library.ofFiles (recordFiles (recordsRequest "./a/m" "./b/m") "a/m.ts" "b/m.ts")).insert m) m "B" r' ∧
      r.key ≠ r'.key ∧ declaredFields s = [(r.key, ["x"]), (r'.key, ["y"])] := by
  let request := recordsRequest "./a/m" "./b/m"
  have hsighting : sightingOf request "a/m.ts" "b/m.ts" =
      some ⟨some ("a/m.ts", "A"), some ("b/m.ts", "A"), some ⟨"A", "a/m", .record⟩, some ⟨"A", "b/m", .record⟩,
        [⟨"A", "a/m"⟩, ⟨"A", "b/m"⟩], [(⟨"A", "a/m"⟩, ["x"]), (⟨"A", "b/m"⟩, ["y"])]⟩ := by
    decide +kernel
  obtain ⟨m, s, hread, hbuild, hseen⟩ := exists_of_sightingOf hsighting
  obtain ⟨l, hl, hfile, hname⟩ := exists_of_locatedAt (congrArg Sighting.located hseen)
  obtain ⟨l', hl', hfile', hname'⟩ := exists_of_locatedAt (congrArg Sighting.located' hseen)
  have hr := refers_of_referenceAt (congrArg Sighting.reference hseen)
  have hr' := refers_of_referenceAt (congrArg Sighting.reference' hseen)
  have hpath : Canonical request.path := (normalised_of_length (by decide) (by decide)).canonical
  have hm : ((Library.ofFiles (recordFiles request "a/m.ts" "b/m.ts")).insert m).Holds m :=
    ⟨Module.path_read hread ▸ hpath, Library.has_insert _ m⟩
  -- The records lie in different directories, so that no two files share an identity.
  have hidentified : Identified fun path => (recordFiles request "a/m.ts" "b/m.ts").lookup path :=
    identified_lookup (by decide +kernel)
  have hkeys := buildService_keys_eq_iff hread hbuild hr hr' hl hl' (hname.trans hname'.symm)
    (by rw [hfile, hfile']; decide)
  have hdiffer := (hkeys.2.2 _ (serves_ofFiles _) hidentified hpath rfl hm hm).1
  exact ⟨m, s, _, _, hbuild, hr, hr', hdiffer, congrArg Sighting.declared hseen⟩

/-- Files that differ in their extensions have one identity. -/
theorem buildService_merges :
    Merges (recordsRequest "./m" "./m.mts") "m.ts" "m.mts" ⟨"A", "m", .record⟩ :=
  merges_of_sightingOf (by decide +kernel)

end Resolution

end ServiceStubs
