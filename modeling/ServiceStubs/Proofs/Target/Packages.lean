import Mathlib.Data.List.Count
import Mathlib.Data.List.TakeWhile
import ServiceStubs.Proofs.Target.Companions

/-!
# Packages

Python imports a module by way of the packages that it is in. Every directory above a module is one, up to the output
directory itself: it has a marker, either among the files or added to them.

* `upOne` is one turn of the walk from a file up to the output directory, and `ancestors_eq_iterate` says when the
  walk has ended, and where it went;
* `IsAbove` says which directories are above a path, and `mem_ancestors_iff` that the walk finds these;
* `mem_paths_packageMarkers_iff` says which markers are added;
* `packages_complete` says that directories above modules have one marker each, also those of the markers.
-/

namespace ServiceStubs.Python

/-! ## The way up -/

/-- The directory that a file or directory is in: what stands in front of the last separator of its path, or the output
directory if there is none. -/
def upOne (path : String) : String :=
  String.ofList ((path.toList.reverse.dropWhile (· ≠ '/')).drop 1).reverse

theorem upOne_of_not_mem {path : String} (h : '/' ∉ path.toList) : upOne path = "" := by
  have hall : path.toList.reverse.dropWhile (· ≠ '/') = [] := by
    rw [List.dropWhile_eq_nil_iff]
    intro c hc
    exact decide_eq_true fun heq => h (heq ▸ List.mem_reverse.mp hc)
  unfold upOne
  rw [hall]
  rfl

theorem upOne_append (directory : String) {name : String} (h : '/' ∉ name.toList) :
    upOne (directory ++ "/" ++ name) = directory := by
  have hreverse : (directory ++ "/" ++ name).toList.reverse =
      name.toList.reverse ++ '/' :: directory.toList.reverse := by
    simp
  have hname : ∀ c ∈ name.toList.reverse, decide (c ≠ '/') = true := by
    intro c hc
    exact decide_eq_true fun heq => h (heq ▸ List.mem_reverse.mp hc)
  unfold upOne
  rw [hreverse, List.dropWhile_append_of_pos hname, List.dropWhile_cons_of_neg (by simp), List.drop_one, List.tail_cons,
    List.reverse_reverse, String.ofList_toList]

/-- A path is a name in the output directory, or in the directory that it is in. -/
theorem upOne_cases (path : String) :
    ('/' ∉ path.toList ∧ upOne path = "") ∨
      ∃ name, '/' ∉ name.toList ∧ path = upOne path ++ "/" ++ name := by
  by_cases hmem : '/' ∈ path.toList
  · right
    obtain ⟨name, front, hsplit, hname⟩ := List.eq_append_cons_of_mem (List.mem_reverse.mpr hmem)
    have hname' : '/' ∉ (String.ofList name.reverse).toList := by simpa using hname
    have hpath : path = String.ofList front.reverse ++ "/" ++ String.ofList name.reverse := by
      apply String.toList_inj.mp
      have hlist := congrArg List.reverse hsplit
      simpa using hlist
    refine ⟨String.ofList name.reverse, hname', ?_⟩
    rw [hpath, upOne_append _ hname']
  · exact .inl ⟨hmem, upOne_of_not_mem hmem⟩

/-- Going up passes a separator. -/
theorem count_upOne_lt {path : String} (h : upOne path ≠ "") :
    (upOne path).toList.count '/' < path.toList.count '/' := by
  rcases upOne_cases path with ⟨-, htop⟩ | ⟨name, -, hpath⟩
  · exact absurd htop h
  · have hone : ("/" : String).toList.count '/' = 1 := by decide
    rw [congrArg String.toList hpath]
    simp only [String.toList_append, List.count_append]
    omega

/-- What holds where the walk ends, and below a directory if it holds there, holds for every path. -/
theorem upOne_induction {motive : String → Prop} (top : ∀ path, upOne path = "" → motive path)
    (below : ∀ path, upOne path ≠ "" → motive (upOne path) → motive path) (path : String) : motive path := by
  induction hcount : path.toList.count '/' using Nat.strongRecOn generalizing path with
  | ind count ih =>
    by_cases htop : upOne path = ""
    · exact top path htop
    · exact below path htop (ih _ (hcount ▸ count_upOne_lt htop) (upOne path) rfl)

theorem ancestors_eq_cut (cs : List Char) :
    ancestors cs =
      if (cs.dropWhile (· ≠ '/')).drop 1 = [] then [""]
      else String.ofList ((cs.dropWhile (· ≠ '/')).drop 1).reverse ::
        ancestors ((cs.dropWhile (· ≠ '/')).drop 1) := by
  induction cs with
  | nil => rfl
  | cons c rest ih =>
    rw [ancestors]
    by_cases hc : c = '/'
    · subst hc
      by_cases hrest : rest = []
      · subst hrest
        rfl
      · simp [hrest]
    · rw [if_neg fun h => hc h.1, List.dropWhile_cons_of_pos (by simpa using hc), ih]

/-- A turn of the walk: go up, and stop in the output directory. -/
theorem ancestors_turn (path : String) :
    ancestors path.toList.reverse =
      if upOne path = "" then [""] else upOne path :: ancestors (upOne path).toList.reverse := by
  have hcut : (upOne path).toList.reverse = (path.toList.reverse.dropWhile (· ≠ '/')).drop 1 := by
    unfold upOne
    rw [String.toList_ofList, List.reverse_reverse]
  have hempty : upOne path = "" ↔ (path.toList.reverse.dropWhile (· ≠ '/')).drop 1 = [] := by
    rw [← hcut, List.reverse_eq_nil_iff, String.toList_eq_nil_iff]
  rw [ancestors_eq_cut, hcut]
  simp only [hempty]
  rfl

/-- The walk from any path ends, at the latest when all separators have been passed, and goes through one directory in
each turn. -/
theorem ancestors_eq_iterate (path : String) :
    ∃ n, 0 < n ∧ n ≤ path.toList.count '/' + 1 ∧ upOne^[n] path = "" ∧
      (∀ i, 0 < i → i < n → upOne^[i] path ≠ "") ∧
      ancestors path.toList.reverse = (List.range n).map fun i => upOne^[i + 1] path := by
  induction path using upOne_induction with
  | top path htop =>
    refine ⟨1, Nat.one_pos, by omega, htop, by omega, ?_⟩
    rw [ancestors_turn, if_pos htop, List.range_one, List.map_singleton, ← htop]
    rfl
  | below path hbelow ih =>
    -- One turn has been made, and the others are those of the directory above.
    obtain ⟨n, hpos, hle, hend, hbefore, hwalk⟩ := ih
    have hless := count_upOne_lt hbelow
    refine ⟨n + 1, by omega, by omega, hend, ?_, ?_⟩
    · intro i hi hin
      obtain ⟨i, rfl⟩ := Nat.exists_eq_succ_of_ne_zero hi.ne'
      rw [Function.iterate_succ_apply]
      rcases Nat.eq_zero_or_pos i with rfl | hi
      · exact hbelow
      · exact hbefore i hi (by omega)
    · rw [ancestors_turn, if_neg hbelow, hwalk, List.range_succ_eq_map, List.map_cons, List.map_map]
      rfl

/-! ## Directories above a path -/

/-- A directory is above a path if it is the output directory, or if the path goes on behind it. -/
def IsAbove (directory path : String) : Prop :=
  directory = "" ∨ ∃ rest, path = directory ++ "/" ++ rest

theorem IsAbove.trans {directory directory' path : String} (h : IsAbove directory directory')
    (h' : IsAbove directory' path) : IsAbove directory path := by
  rcases h with rfl | ⟨rest, rfl⟩
  · exact .inl rfl
  · rcases h' with hempty | ⟨rest', rfl⟩
    · simp at hempty
    · exact .inr ⟨rest ++ "/" ++ rest', by simp [String.append_assoc]⟩

theorem isAbove_empty_iff (directory : String) : IsAbove directory "" ↔ directory = "" := by
  constructor
  · rintro (h | ⟨rest, h⟩)
    · exact h
    · simp at h
  · exact .inl

/-- What is above a path is the directory that it is in, or above that. -/
theorem isAbove_iff_upOne (directory path : String) :
    IsAbove directory path ↔ directory = upOne path ∨ IsAbove directory (upOne path) := by
  rcases upOne_cases path with ⟨hmem, htop⟩ | ⟨name, hname, hpath⟩
  · rw [htop, isAbove_empty_iff, or_self]
    constructor
    · rintro (h | ⟨rest, rfl⟩)
      · exact h
      · simp at hmem
    · exact .inl
  · constructor
    · rintro (h | ⟨rest, hrest⟩)
      · exact .inr (.inl h)
      · have hlist : (upOne path).toList ++ '/' :: name.toList = directory.toList ++ '/' :: rest.toList := by
          have heq := congrArg String.toList (hpath.symm.trans hrest)
          simpa using heq
        -- There is no separator in the name, so that the other one is the same, or in the directory.
        rcases List.append_eq_append_iff.mp hlist with ⟨as, hup, has⟩ | ⟨as, hup, has⟩
        · cases as with
          | nil => exact .inl (String.toList_inj.mp (by simpa using hup))
          | cons c as =>
            have hname' : name.toList = as ++ '/' :: rest.toList := (List.cons.inj has).2
            exact absurd (by rw [hname']; simp) hname
        · cases as with
          | nil => exact .inl (String.toList_inj.mp (by simpa using hup.symm))
          | cons c as =>
            obtain ⟨rfl, -⟩ := List.cons.inj has
            exact .inr (.inr ⟨String.ofList as, String.toList_inj.mp (by simp [hup])⟩)
    · have hin : IsAbove (upOne path) path := .inr ⟨name, hpath⟩
      rintro (rfl | h)
      · exact hin
      · exact h.trans hin

/-- The walk goes through the directories above a path, and no others. -/
theorem mem_ancestors_iff (directory path : String) :
    directory ∈ ancestors path.toList.reverse ↔ IsAbove directory path := by
  induction path using upOne_induction with
  | top path htop =>
    rw [ancestors_turn, if_pos htop, List.mem_singleton, isAbove_iff_upOne, htop, isAbove_empty_iff, or_self]
  | below path hbelow ih => rw [ancestors_turn, if_neg hbelow, List.mem_cons, ih, ← isAbove_iff_upOne]

/-! ## Markers -/

theorem markerPath_of_ne {directory : String} (h : directory ≠ "") :
    markerPath directory = directory ++ "/" ++ "__init__.py" := by
  unfold markerPath
  rw [if_neg (by simpa using h), String.append_assoc]
  rfl

theorem upOne_markerPath (directory : String) : upOne (markerPath directory) = directory := by
  by_cases hempty : directory = ""
  · subst hempty
    decide
  · rw [markerPath_of_ne hempty, upOne_append _ (by decide)]

/-- Above a safe path there is a directory for every list of segments that its segments begin with, and the marker of
the directory stands behind these. -/
theorem exists_isAbove_of_splitOn {path : String} (hsafe : SafePath path) {front back : List String}
    (hback : back ≠ []) (hsplit : Text.splitOn '/' path = front ++ back) :
    ∃ directory, IsAbove directory path ∧
      Text.splitOn '/' (markerPath directory) = front ++ ["__init__.py"] := by
  by_cases hfront : front = []
  · subst hfront
    exact ⟨"", .inl rfl, by decide⟩
  · have hnames : ∀ segment ∈ front ++ back, IsName segment := hsplit ▸ hsafe.names
    have hslash : ∀ segment ∈ front ++ back, '/' ∉ segment.toList := by
      intro segment hsegment
      exact Text.not_mem_of_mem_splitOn (hsplit ▸ hsegment)
    obtain ⟨hslash, hslash'⟩ := List.forall_mem_append.mp hslash
    have hdirectory : Text.splitOn '/' ("/".intercalate front) = front := Text.splitOn_intercalate hfront hslash
    -- Only the empty segment would make the directory empty, and that is no name.
    have hnonempty : "/".intercalate front ≠ "" := by
      intro hempty
      rw [hempty] at hdirectory
      have hname : IsName "" := hnames "" (List.mem_append_left _ (hdirectory ▸ by decide))
      exact hname.nonempty rfl
    refine ⟨"/".intercalate front, .inr ⟨"/".intercalate back, Text.splitOn_injective ?_⟩, ?_⟩
    · rw [Text.splitOn_append, hdirectory, Text.splitOn_intercalate hback hslash', hsplit]
    · have hname : Text.splitOn '/' "__init__.py" = ["__init__.py"] := Text.splitOn_of_not_mem (by decide)
      rw [markerPath_of_ne hnonempty, Text.splitOn_append, hdirectory, hname]

/-- Some module is below a directory. -/
def HoldsModule (files : List OutputFile) (directory : String) : Prop :=
  ∃ f ∈ files, Text.endsWith f.path ".py" ∧ IsAbove directory f.path

/-- Markers are added for directories above modules, where there are none. -/
theorem mem_paths_packageMarkers_iff (files : List OutputFile) (path : String) :
    path ∈ (packageMarkers files).map (·.path) ↔
      (∃ directory, HoldsModule files directory ∧ markerPath directory = path) ∧ ∀ f ∈ files, f.path ≠ path := by
  rw [paths_packageMarkers, List.mem_filter]
  have hdirectories : ∀ directory,
      directory ∈ (sortedTable (((files.filter fun f => Text.endsWith f.path ".py").flatMap fun f =>
        ancestors f.path.toList.reverse).map fun dir => (dir, ()))).map (·.1) ↔ HoldsModule files directory := by
    intro directory
    rw [mem_keys_sortedTable, List.map_map]
    have hfst : (fun e : String × Unit => e.1) ∘ (fun dir => (dir, ())) = id := rfl
    rw [hfst, List.map_id, List.mem_flatMap]
    simp only [List.mem_filter, mem_ancestors_iff, and_assoc, HoldsModule]
  simp only [List.mem_map (f := markerPath), hdirectories]
  simp

/-- A directory above a marker is above a module that the marker was added for. -/
theorem holdsModule_append_packageMarkers (files : List OutputFile) (directory : String) :
    HoldsModule (files ++ packageMarkers files) directory ↔ HoldsModule files directory := by
  constructor
  · rintro ⟨f, hf, hmodule, habove⟩
    rcases List.mem_append.mp hf with hf | hf
    · exact ⟨f, hf, hmodule, habove⟩
    · obtain ⟨⟨directory', ⟨g, hg, hmodule', habove'⟩, hmarker⟩, -⟩ :=
        (mem_paths_packageMarkers_iff files f.path).mp (List.mem_map_of_mem hf)
      rw [← hmarker, isAbove_iff_upOne, upOne_markerPath] at habove
      rcases habove with rfl | habove
      · exact ⟨g, hg, hmodule', habove'⟩
      · exact ⟨g, hg, hmodule', habove.trans habove'⟩
  · rintro ⟨f, hf, hmodule, habove⟩
    exact ⟨f, List.mem_append_left _ hf, hmodule, habove⟩

/-- Every directory above a module has one marker, which was there or has been added. -/
theorem count_markerPath {files : List OutputFile} (h : (files.map (·.path)).Nodup) {directory : String}
    (hdirectory : HoldsModule (files ++ packageMarkers files) directory) :
    ((files ++ packageMarkers files).map (·.path)).count (markerPath directory) = 1 := by
  apply List.count_eq_one_of_mem ((nodup_companions .python files).mpr h)
  rw [List.map_append, List.mem_append]
  by_cases hmarker : markerPath directory ∈ files.map (·.path)
  · exact .inl hmarker
  · refine .inr ((mem_paths_packageMarkers_iff files _).mpr ⟨⟨directory, ?_, rfl⟩, ?_⟩)
    · exact (holdsModule_append_packageMarkers files directory).mp hdirectory
    · intro f hf heq
      exact hmarker (List.mem_map.mpr ⟨f, hf, heq⟩)

/-- Among files with paths of their own and the markers that are added to them, a directory above a module has one
marker, no path is used twice, and markers are added above modules only; the walk up from a path ends. If the paths are
safe, the directories above a path are the beginnings of its list of segments, so that directories do not share markers
by having two paths. -/
theorem packages_complete {files : List OutputFile} (h : (files.map (·.path)).Nodup) :
    (∀ directory, HoldsModule (files ++ packageMarkers files) directory →
      ((files ++ packageMarkers files).map (·.path)).count (markerPath directory) = 1) ∧
    ((files ++ packageMarkers files).map (·.path)).Nodup ∧
    (∀ marker ∈ packageMarkers files,
      HoldsModule files (upOne marker.path) ∧ marker.path = markerPath (upOne marker.path)) ∧
    (∀ path, ∃ n, 0 < n ∧ n ≤ path.toList.count '/' + 1 ∧ upOne^[n] path = "" ∧
      (∀ i, 0 < i → i < n → upOne^[i] path ≠ "") ∧
      ancestors path.toList.reverse = (List.range n).map fun i => upOne^[i + 1] path) ∧
    ((∀ f ∈ files, SafePath f.path) → ∀ f ∈ files ++ packageMarkers files, Text.endsWith f.path ".py" →
      ∀ front back, back ≠ [] → Text.splitOn '/' f.path = front ++ back →
        ((files ++ packageMarkers files).map fun f =>
          Text.splitOn '/' f.path).count (front ++ ["__init__.py"]) = 1) := by
  refine ⟨fun directory => count_markerPath h, (nodup_companions .python files).mpr h, ?_, ancestors_eq_iterate, ?_⟩
  · intro marker hmem
    obtain ⟨⟨directory, hdirectory, hpath⟩, -⟩ :=
      (mem_paths_packageMarkers_iff files marker.path).mp (List.mem_map_of_mem hmem)
    rw [← hpath, upOne_markerPath]
    exact ⟨hdirectory, rfl⟩
  · intro hsafe f hf hmodule front back hback hsplit
    have hsafe' : ∀ f ∈ files ++ packageMarkers files, SafePath f.path :=
      List.forall_mem_append.mpr ⟨hsafe, packageMarkers_safe hsafe⟩
    obtain ⟨directory, habove, hmarker⟩ := exists_isAbove_of_splitOn (hsafe' f hf) hback hsplit
    -- Lists of segments are equal if and only if the paths are, so that markers can be counted by their paths.
    have hsegments : ((files ++ packageMarkers files).map fun f => Text.splitOn '/' f.path) =
        ((files ++ packageMarkers files).map (·.path)).map (Text.splitOn '/') := by
      rw [List.map_map]
      rfl
    rw [hsegments, ← hmarker, List.count_map_of_injective _ _ Text.splitOn_injective]
    exact count_markerPath h ⟨f, hf, hmodule, habove⟩

/-- A client, a model in a package that is marked, and a model below that one. -/
def layeredFiles : List OutputFile :=
  [⟨"greeter.py", "", some "Greeter"⟩, ⟨"src/__init__.py", "", none⟩, ⟨"src/models/user.py", "", none⟩]

theorem packages_complete_layered :
    (layeredFiles.map (·.path)).Nodup ∧
      (packageMarkers layeredFiles).map (·.path) = ["__init__.py", "src/models/__init__.py"] ∧
      ((layeredFiles ++ packageMarkers layeredFiles).map (·.path)).count "src/__init__.py" = 1 := by
  have hpaths : (layeredFiles.map (·.path)).Nodup := by decide
  have hmodule : HoldsModule (layeredFiles ++ packageMarkers layeredFiles) "src" := by
    have hmem : ⟨"src/models/user.py", "", none⟩ ∈ layeredFiles := by decide
    exact ⟨_, List.mem_append_left _ hmem, by decide, .inr ⟨"models/user.py", rfl⟩⟩
  exact ⟨hpaths, by decide, (packages_complete hpaths).1 "src" hmodule⟩

end ServiceStubs.Python
