import ServiceStubs.Proofs.Files.SafePath
import ServiceStubs.Proofs.Text.WordCase
import ServiceStubs.Source.ModulePath
import ServiceStubs.Target.Emitters

/-!
# Paths inside of the output directory

Clients and runtimes always have safe paths. The file for a module has one if and only if none of the
directories in the identity of the module has an empty name, as the first one of an absolute path does.

* `clientPath_safe` and `runtimePath_safe` hold for every target;
* `modelPath_safe_iff` says which modules have safe paths;
* `companions_safe` concludes from the other files to those that their paths call for.
-/

namespace ServiceStubs

/-! ## Clients and runtimes -/

theorem clientPath_safe (target : Target) (className : String) :
    SafePath (target.emitter.clientPath className) := by
  have hcamel := Text.slash_not_mem_lowerCamel className
  have hsnake := Text.slash_not_mem_snakeCase className
  cases target with
  | typeScript => exact safePath_append hcamel (by decide) (by decide)
  | javaScript => exact safePath_append hcamel (by decide) (by decide)
  | python => exact safePath_append hsnake (by decide) (by decide)
  | swift => exact safePath_append hcamel (by decide) (by decide)
  | dart => exact safePath_append hsnake (by decide) (by decide)
  | kotlin => exact safePath_append hsnake (by decide) (by decide)
  | go => exact safePath_append hsnake (by decide) (by decide)

theorem runtimePath_safe (target : Target) : SafePath target.emitter.runtimePath := by
  cases target <;> exact safePath_of_slash_not_mem (by decide) (by decide)

/-! ## Models -/

/-- No directory in the identity of a module has an empty name. -/
def NamedDirectories (modulePath : String) : Prop :=
  ∀ segment ∈ (Text.splitOn '/' modulePath).dropLast, segment ≠ ""

theorem namedDirectories_iff (modulePath : String) :
    NamedDirectories modulePath ↔ ∀ part ∈ (Text.splitAt '/' modulePath.toList).dropLast, part ≠ [] := by
  unfold NamedDirectories Text.splitOn
  rw [← List.map_dropLast, List.forall_mem_map]
  simp

/-- What stands for a character in the path for a module. -/
def safeChar (c : Char) : Char :=
  if c = '/' ∨ Text.isWordChar c then c else '_'

theorem safeChar_eq_slash_iff (c : Char) : safeChar c = '/' ↔ c = '/' := by
  unfold safeChar
  split
  · exact Iff.rfl
  · rename_i h
    rw [not_or] at h
    constructor
    · intro heq
      exact absurd heq (by decide)
    · intro heq
      exact absurd heq h.1

theorem safeChar_ne_dot (c : Char) : safeChar c ≠ '.' := by
  have hdot : ¬('.' = '/' ∨ Text.isWordChar '.') := by decide
  unfold safeChar
  split
  · rename_i h
    rintro rfl
    exact hdot h
  · decide

/-- A directory of the path for a module is a name unless it is empty in the identity of the module. -/
theorem isName_safeChars_iff (part : List Char) : IsName (String.ofList (part.map safeChar)) ↔ part ≠ [] := by
  constructor
  · rintro h rfl
    exact h.nonempty rfl
  · intro hne
    have hdot : ∀ cs : List Char, '.' ∈ cs → String.ofList (part.map safeChar) ≠ String.ofList cs := by
      intro cs hmem heq
      rw [← String.ofList_inj.mp heq] at hmem
      obtain ⟨c, -, hc⟩ := List.mem_map.mp hmem
      exact safeChar_ne_dot c hc
    refine ⟨?_, hdot ['.'] (by simp), hdot ['.', '.'] (by simp)⟩
    intro hempty
    have hnil : part.map safeChar = [] := String.ofList_inj.mp hempty
    exact hne (List.map_eq_nil_iff.mp hnil)

/-- The segments of the path for a module. -/
theorem splitOn_safeModulePath {modulePath ending : String} (hending : '/' ∉ ending.toList) :
    Text.splitOn '/' (safeModulePath modulePath ++ ending) =
      ((Text.splitAt '/' modulePath.toList).dropLast.map fun part => String.ofList (part.map safeChar)) ++
        [String.ofList (((Text.splitAt '/' modulePath.toList).getLastD []).map safeChar ++ ending.toList)] := by
  have hchars : (safeModulePath modulePath).toList = modulePath.toList.map safeChar := by
    unfold safeModulePath
    rw [String.toList_ofList]
    rfl
  unfold Text.splitOn
  rw [String.toList_append, hchars, Text.splitAt_append_of_not_mem hending,
    Text.splitAt_map safeChar_eq_slash_iff, List.map_append, ← List.map_dropLast, List.map_map,
    List.getLastD_eq_getLast?, List.getLastD_eq_getLast?, List.getLast?_map]
  cases (Text.splitAt '/' modulePath.toList).getLast? with
  | none => rfl
  | some part => rfl

theorem safePath_module_iff {modulePath ending : String} (hending : '/' ∉ ending.toList)
    (hlength : 3 ≤ ending.toList.length) :
    SafePath (safeModulePath modulePath ++ ending) ↔ NamedDirectories modulePath := by
  rw [namedDirectories_iff]
  constructor
  · intro h part hpart
    rw [← isName_safeChars_iff]
    apply h.names
    rw [splitOn_safeModulePath hending]
    exact List.mem_append_left _ (List.mem_map.mpr ⟨part, hpart, rfl⟩)
  · intro h
    apply safePath_of_names
    rw [splitOn_safeModulePath hending]
    intro segment hsegment
    -- The ending makes the last segment long enough for a name, whatever the module is called.
    rcases List.mem_append.mp hsegment with hsegment | hsegment
    · obtain ⟨part, hpart, rfl⟩ := List.mem_map.mp hsegment
      exact (isName_safeChars_iff part).mpr (h part hpart)
    · rw [List.mem_singleton] at hsegment
      subst hsegment
      apply isName_of_length
      rw [String.toList_ofList, List.length_append]
      omega

/-- The target puts the declarations of a module at the path of the module. -/
def Target.mirrorsModules : Target → Bool
  | .typeScript | .python | .swift | .dart | .kotlin => true
  | .javaScript | .go => false

theorem modelPath_safe_iff (target : Target) (hemits : target.emitter.emitsDeclarations)
    (modulePath : String) :
    SafePath (target.emitter.modelPath modulePath) ↔
      (target.mirrorsModules → NamedDirectories modulePath) := by
  have hmirrors : NamedDirectories modulePath ↔ (true → NamedDirectories modulePath) :=
    ⟨fun h _ => h, fun h => h rfl⟩
  cases target with
  | typeScript => exact (safePath_module_iff (by decide) (by decide)).trans hmirrors
  | javaScript => cases hemits
  | python => exact (safePath_module_iff (by decide) (by decide)).trans hmirrors
  | swift => exact (safePath_module_iff (by decide) (by decide)).trans hmirrors
  | dart => exact (safePath_module_iff (by decide) (by decide)).trans hmirrors
  | kotlin => exact (safePath_module_iff (by decide) (by decide)).trans hmirrors
  | go =>
    -- Slashes are replaced, so that there are no directories.
    have hsafe : SafePath (Target.go.emitter.modelPath modulePath) := by
      refine safePath_append ?_ (by decide) (by decide)
      rw [String.toList_ofList]
      intro hmem
      obtain ⟨c, -, hc⟩ := List.mem_map.mp hmem
      split at hc
      · exact absurd hc (by decide)
      · rename_i hne
        exact hne hc
    simpa [Target.mirrorsModules] using hsafe

/-! ## Modules of source files -/

namespace Source

/-- A path without extension lacks only something in its last segment. -/
theorem dropExtension_append (path : List Char) :
    ∃ ending, '/' ∉ ending ∧ path = dropExtension path ++ ending := by
  let inner (c : Char) : Bool := c != '.' && c != '/'
  have hsplit : path.reverse.takeWhile inner ++ path.reverse.dropWhile inner = path.reverse :=
    List.takeWhile_append_dropWhile
  unfold dropExtension
  split
  · rename_i stem hstem
    have hdropped : path.reverse.dropWhile inner = '.' :: stem := hstem
    rw [hdropped] at hsplit
    refine ⟨'.' :: (path.reverse.takeWhile inner).reverse, ?_, ?_⟩
    · intro hmem
      rcases List.mem_cons.mp hmem with hdot | hmem
      · exact absurd hdot (by decide)
      · have hinner := List.all_eq_true.mp List.all_takeWhile _ (List.mem_reverse.mp hmem)
        exact absurd hinner (by decide)
    · calc path = path.reverse.reverse := (List.reverse_reverse path).symm
        _ = (path.reverse.takeWhile inner ++ '.' :: stem).reverse := by rw [hsplit]
        _ = stem.reverse ++ '.' :: (path.reverse.takeWhile inner).reverse := by simp
  · exact ⟨[], by simp, by simp⟩

theorem stripEnd?_append (text : String) {ending : String} (h : '/' ∉ ending.toList) :
    ∃ rest, '/' ∉ rest ∧ text.toList = ((Text.stripEnd? text ending).getD text).toList ++ rest := by
  rcases hstem : Text.stripEnd? text ending with _ | stem
  · exact ⟨[], by simp, by simp⟩
  · refine ⟨ending.toList, h, ?_⟩
    rw [Option.getD_some, ← String.toList_append, ← Text.eq_append_of_stripEnd? hstem]

/-- Leading segments `..` become directories of their own. -/
theorem splitAt_parents (parents : Nat) (rest : List Char) :
    Text.splitAt '/' ((String.join (List.replicate parents (parentSegment ++ "/"))).toList ++ rest) =
      List.replicate parents parentSegment.toList ++ Text.splitAt '/' rest := by
  induction parents with
  | zero => rfl
  | succ n ih =>
    have hchars : (String.join (List.replicate (n + 1) (parentSegment ++ "/"))).toList ++ rest =
        parentSegment.toList ++
          '/' :: ((String.join (List.replicate n (parentSegment ++ "/"))).toList ++ rest) := by
      rw [List.replicate_succ, String.join_cons]
      simp
    rw [hchars, Text.splitAt_append_sep, ih, Text.splitAt_of_not_mem (by decide)]
    rfl

end Source

/-! ## Companions -/

theorem mem_insertSorted {α : Type} {key : String} {value : α} {table : List (String × α)} {e : String × α}
    (h : e ∈ insertSorted key value table) : e = (key, value) ∨ e ∈ table := by
  induction table with
  | nil => simpa [insertSorted] using h
  | cons first rest ih =>
    obtain ⟨k, v⟩ := first
    unfold insertSorted at h
    split at h
    · exact (List.mem_cons.mp h).imp_right (List.mem_cons_of_mem _)
    · split at h
      · exact List.mem_cons.mp h
      · rcases List.mem_cons.mp h with rfl | h
        · exact .inr List.mem_cons_self
        · exact (ih h).imp_right (List.mem_cons_of_mem _)

/-- A sorted table has no entries but those that went in. -/
theorem mem_sortedTable {α : Type} {entries : List (String × α)} {e : String × α}
    (h : e ∈ sortedTable entries) : e ∈ entries := by
  -- The table that entries are put into is not empty after the first one.
  have hfold : ∀ (entries table : List (String × α)),
      e ∈ entries.foldl (fun table e => insertSorted e.1 e.2 table) table → e ∈ table ∨ e ∈ entries := by
    intro entries
    induction entries with
    | nil => exact fun table h => .inl h
    | cons first rest ih =>
      intro table h
      rcases ih _ h with h | h
      · rcases mem_insertSorted h with rfl | h
        · exact .inr List.mem_cons_self
        · exact .inl h
      · exact .inr (List.mem_cons_of_mem _ h)
  exact (hfold entries [] h).resolve_left (by simp)

namespace Python

/-- The directories of a path are its beginnings up to a separator. -/
theorem mem_ancestors {path : List Char} {directory : String} (h : directory ∈ ancestors path) :
    directory = "" ∨ ∃ rest, path.reverse = directory.toList ++ '/' :: rest := by
  induction path with
  | nil =>
    rw [ancestors, List.mem_singleton] at h
    exact .inl h
  | cons c path ih =>
    have hlonger : (∃ rest, path.reverse = directory.toList ++ '/' :: rest) →
        ∃ rest, (c :: path).reverse = directory.toList ++ '/' :: rest := by
      rintro ⟨rest, hrest⟩
      exact ⟨rest ++ [c], by rw [List.reverse_cons, hrest]; simp⟩
    unfold ancestors at h
    split at h
    · rename_i hc
      rcases List.mem_cons.mp h with rfl | h
      · refine .inr ⟨[], ?_⟩
        rw [String.toList_ofList, List.reverse_cons, hc.1]
      · exact (ih h).imp_right hlonger
    · exact (ih h).imp_right hlonger

theorem markerPath_safe {path directory : String} (hpath : SafePath path)
    (h : directory ∈ ancestors path.toList.reverse) : SafePath (markerPath directory) := by
  unfold markerPath
  split
  · exact safePath_of_slash_not_mem (by decide) (by decide)
  · rename_i hnonempty
    rcases mem_ancestors h with rfl | ⟨rest, hrest⟩
    · exact absurd rfl hnonempty
    · rw [List.reverse_reverse] at hrest
      apply safePath_of_names
      intro segment hsegment
      -- All segments of the marker but its own name are those of a path that is safe.
      have hmarker : (directory ++ "/__init__.py").toList =
          directory.toList ++ '/' :: "__init__.py".toList := by
        rw [String.toList_append]
        rfl
      unfold Text.splitOn at hsegment
      rw [hmarker, Text.splitAt_append_sep, List.map_append] at hsegment
      rcases List.mem_append.mp hsegment with hsegment | hsegment
      · apply hpath.names
        unfold Text.splitOn
        rw [hrest, Text.splitAt_append_sep, List.map_append]
        exact List.mem_append_left _ hsegment
      · rw [Text.splitAt_of_not_mem (by decide), List.map_singleton, List.mem_singleton] at hsegment
        subst hsegment
        exact isName_of_length (by decide)

theorem packageMarkers_safe {files : List OutputFile} (h : ∀ f ∈ files, SafePath f.path) :
    ∀ f ∈ packageMarkers files, SafePath f.path := by
  intro f hf
  obtain ⟨path, hpath, rfl⟩ := List.mem_map.mp hf
  obtain ⟨directory, hdirectory, rfl⟩ := List.mem_map.mp (List.mem_filter.mp hpath).1
  obtain ⟨⟨directory', _⟩, he, rfl⟩ := List.mem_map.mp hdirectory
  obtain ⟨directory, hmem, heq⟩ := List.mem_map.mp (mem_sortedTable he)
  cases heq
  obtain ⟨g, hg, hancestor⟩ := List.mem_flatMap.mp hmem
  exact markerPath_safe (h g (List.mem_filter.mp hg).1) hancestor

end Python

theorem companions_safe (target : Target) {files : List OutputFile} (h : ∀ f ∈ files, SafePath f.path) :
    ∀ f ∈ target.emitter.companions files, SafePath f.path := by
  cases target with
  | python => exact Python.packageMarkers_safe h
  | _ =>
    intro f hf
    cases hf

end ServiceStubs
