import ServiceStubs.Proofs.Source.CanonicalPath
import ServiceStubs.Proofs.Target.OutputPaths

/-!
# Imports between generated files

A generated file names another one by the way from its own directory: up to where the two paths part, and down
from there. Each target spells this way by rules of its own, and by the same rules it leads to the other file.

* `between` is the way from one directory to another, and `foldl_between` says that it leads there;
* `Target.importRules?` is what a target writes for a file, and where this leads;
* `leadsTo_written_iff` is the round trip.
-/

namespace ServiceStubs

open Source (enter joinSpecifier candidates hasSourceExtension)

/-! ## The way from one directory to another -/

theorem take_commonLength (as bs : List String) :
    as.take (commonLength as bs) = bs.take (commonLength as bs) := by
  induction as generalizing bs with
  | nil => simp [commonLength]
  | cons a as ih =>
    cases bs with
    | nil => simp [commonLength]
    | cons b bs =>
      unfold commonLength
      split
      · rename_i hab
        rw [List.take_succ_cons, List.take_succ_cons, hab, ih]
      · rfl

theorem commonLength_le_length (as bs : List String) :
    commonLength as bs ≤ as.length ∧ commonLength as bs ≤ bs.length := by
  induction as generalizing bs with
  | nil => simp [commonLength]
  | cons a as ih =>
    cases bs with
    | nil => simp [commonLength]
    | cons b bs =>
      unfold commonLength
      have hrest := ih bs
      split
      · simp only [List.length_cons]
        omega
      · omega

/-- What the first list does not have is not common. -/
theorem commonLength_concat {as : List String} {b : String} (h : b ∉ as) (bs : List String) :
    commonLength as (bs ++ [b]) = commonLength as bs := by
  induction as generalizing bs with
  | nil => simp [commonLength]
  | cons a as ih =>
    rw [List.mem_cons, not_or] at h
    cases bs with
    | nil => simp [commonLength, Ne.symm h.1]
    | cons c bs =>
      rw [List.cons_append, commonLength, commonLength, ih h.2]

/-- The way from one directory to another: up to where their paths part, and down from there. -/
def between (here there : List String) : List String :=
  List.replicate (here.length - commonLength here there) ".." ++ there.drop (commonLength here there)

/-- Climbs take away the innermost directories. -/
theorem foldl_enter_up (inner outer : List String) (h : ∀ s ∈ inner, s ≠ "..") :
    (List.replicate inner.length "..").foldl enter (inner ++ outer) = outer := by
  induction inner with
  | nil => rfl
  | cons s inner ih =>
    rw [List.forall_mem_cons] at h
    have hup : enter (s :: (inner ++ outer)) ".." = inner ++ outer := by
      unfold enter
      rw [if_neg (by decide), if_pos rfl]
      dsimp only
      rw [if_neg h.1]
    rw [List.length_cons, List.replicate_succ, List.foldl_cons, List.cons_append, hup]
    exact ih h.2

theorem enter_name {name : String} (h : IsName name) (directory : List String) :
    enter directory name = name :: directory := by
  unfold enter
  rw [if_neg (by simp [h.nonempty, h.not_here]), if_neg h.not_up]

theorem foldl_enter_names {names : List String} (h : ∀ n ∈ names, IsName n) (directory : List String) :
    names.foldl enter directory = names.reverse ++ directory := by
  induction names generalizing directory with
  | nil => rfl
  | cons name names ih =>
    rw [List.forall_mem_cons] at h
    rw [List.foldl_cons, enter_name h.1, ih h.2, List.reverse_cons, List.append_assoc]
    rfl

/-- The way between two directories leads from the first to the second. -/
theorem foldl_between {here there : List String} (hhere : ∀ d ∈ here, d ≠ "..") (hthere : ∀ d ∈ there, IsName d) :
    (between here there).foldl enter here.reverse = there.reverse := by
  have hparted : here.reverse =
      (here.drop (commonLength here there)).reverse ++ (here.take (commonLength here there)).reverse := by
    rw [← List.reverse_append, List.take_append_drop]
  have hup := foldl_enter_up (here.drop (commonLength here there)).reverse (here.take (commonLength here there)).reverse
    fun s hs => hhere s (List.mem_of_mem_drop (List.mem_reverse.mp hs))
  rw [List.length_reverse, List.length_drop, ← hparted] at hup
  unfold between
  rw [List.foldl_append, hup, foldl_enter_names fun n hn => hthere n (List.mem_of_mem_drop hn),
    take_commonLength, ← List.reverse_append, List.take_append_drop]

theorem slash_not_mem_between {here there : List String} (h : ∀ d ∈ there, '/' ∉ d.toList) :
    ∀ s ∈ between here there, '/' ∉ s.toList := by
  intro s hs
  rcases List.mem_append.mp hs with hs | hs
  · rw [List.eq_of_mem_replicate hs]
    decide
  · exact h s (List.mem_of_mem_drop hs)

/-! ## Relative paths -/

theorem join_climbs (count : Nat) {rest : List String} (h : rest ≠ []) :
    String.join (List.replicate count "../") ++ "/".intercalate rest =
      "/".intercalate (List.replicate count ".." ++ rest) := by
  induction count with
  | zero => simp
  | succ count ih =>
    have hstep : ("../" : String) = ".." ++ "/" := rfl
    rw [List.replicate_succ, List.replicate_succ, List.cons_append, String.join_cons,
      String.intercalate_cons_of_ne_nil (by simp [h]), ← ih, hstep, String.append_assoc]

/-- An ending of the last segment is one of the path. -/
theorem intercalate_concat_append (segments : List String) (name ending : String) :
    "/".intercalate (segments ++ [name ++ ending]) = "/".intercalate (segments ++ [name]) ++ ending := by
  by_cases hnil : segments = []
  · simp [hnil]
  · rw [String.intercalate_append_of_ne_nil hnil (by simp), String.intercalate_append_of_ne_nil hnil (by simp),
      String.intercalate_singleton, String.intercalate_singleton]
    simp only [String.append_assoc]

/-- What stands in front of a way that only leads down. -/
def hereMark (here there : List String) : String :=
  if here.length - commonLength here there = 0 then "./" else ""

/-- A relative path is the way between the directories with the file at its end. -/
theorem relativePath_eq {source target file : String} {there : List String}
    (htarget : Text.splitOn '/' target = there ++ [file]) (hfile : file ∉ directorySegments source) :
    relativePath source target = hereMark (directorySegments source) there ++
      "/".intercalate (between (directorySegments source) there ++ [file]) := by
  have hle := (commonLength_le_length (directorySegments source) there).2
  unfold relativePath hereMark between
  simp only [htarget, commonLength_concat hfile, List.drop_append_of_le_length hle]
  split
  · rename_i hups
    rw [hups]
    rfl
  · rw [join_climbs _ (by simp), String.empty_append, List.append_assoc]

/-- Followed from the directory of a file, the way leads to the other directory, and the name is entered there. -/
theorem joinSpecifier_between {source mark name : String} {there : List String}
    (hmark : mark = "" ∨ mark = "./") (hhere : ∀ d ∈ directorySegments source, d ≠ "..")
    (hthere : ∀ d ∈ there, IsName d) (hslash : ∀ d ∈ there ++ [name], '/' ∉ d.toList) :
    joinSpecifier source (mark ++ "/".intercalate (between (directorySegments source) there ++ [name])) =
      "/".intercalate (enter there.reverse name).reverse := by
  rw [List.forall_mem_append, List.forall_mem_singleton] at hslash
  let way := between (directorySegments source) there ++ [name]
  have hway : Text.splitOn '/' ("/".intercalate way) = way := by
    refine Text.splitOn_intercalate (by simp [way]) ?_
    rw [List.forall_mem_append, List.forall_mem_singleton]
    exact ⟨slash_not_mem_between hslash.1, hslash.2⟩
  -- A mark in front of the way enters the directory itself.
  have hfold : (Text.splitOn '/' (mark ++ "/".intercalate way)).foldl enter (directorySegments source).reverse =
      way.foldl enter (directorySegments source).reverse := by
    rcases hmark with rfl | rfl
    · rw [String.empty_append, hway]
    · have hstep : ("./" : String) = "." ++ "/" := rfl
      rw [hstep, Text.splitOn_append, hway]
      rfl
  unfold joinSpecifier
  dsimp only
  change "/".intercalate ((Text.splitOn '/' (mark ++ "/".intercalate way)).foldl enter
    (directorySegments source).reverse).reverse = _
  rw [hfold, List.foldl_append, foldl_between hhere hthere]
  rfl

/-! ## Paths of generated files -/

/-- The path of a generated file: directories with names free of dots, and a file whose name is a stem with the
extension of the target behind it. -/
structure OutputForm (target : Target) (extension path : String) (directories : List String) (stem : String) :
    Prop where
  split : Text.splitOn '/' path = directories ++ [stem ++ extension]
  directories_named : ∀ d ∈ directories, d ≠ "" ∧ '.' ∉ d.toList
  stem_nonempty : stem ≠ ""
  stem_bare : ¬hasSourceExtension stem
  stem_plain : target = .python → '.' ∉ stem.toList

/-- The paths to which a target writes clients, the declarations of modules, and its runtime. -/
inductive Layout.Places (l : Layout) : String → Prop where
  | client (className : String) : l.Places (l.clientPath className)
  | model (modulePath : String) : l.Places (l.modelPath modulePath)
  | runtime : l.Places l.runtimePath

/-- The module that a relative reference names in a Python file, as a path without extension. The dots in front
lead to the package of the file and to the packages above it, and the names behind them lead down from there.
There is none without a dot and none above the topmost package. -/
def Python.importedModule? (source reference : String) : Option String :=
  let package := directorySegments source
  let dots := (reference.toList.takeWhile (· = '.')).length
  let rest := String.ofList (reference.toList.dropWhile (· = '.'))
  let names := if rest = "" then [] else Text.splitOn '.' rest
  if 0 < dots ∧ dots ≤ package.length + 1 then
    some ("/".intercalate (package.take (package.length + 1 - dots) ++ names))
  else none

/-- How the files of a target import each other. -/
structure ImportRules where
  extension : String
  /-- What a file writes to import from another one. -/
  written (source target : String) : String
  /-- The file to which this leads. -/
  leadsTo? (source reference : String) : Option String

/-- The rules of the targets whose files import declarations from each other. A specifier of TypeScript leads to
the first of the files that it can name. -/
def Target.importRules? : Target → Option ImportRules
  | .typeScript => some
    { extension := ".ts"
      written := TypeScript.importSpecifier
      leadsTo? := fun source specifier => (candidates (joinSpecifier source specifier)).head? }
  | .python => some
    { extension := ".py"
      written := Python.importModule
      leadsTo? := fun source reference => (Python.importedModule? source reference).map (· ++ ".py") }
  | .dart => some
    { extension := ".dart"
      written := Dart.importPath
      leadsTo? := fun source path => some (joinSpecifier source path) }
  | .javaScript | .swift | .kotlin | .go => none

section

variable {lang : Target} {extension path : String} {directories : List String} {stem : String}

theorem ne_of_dot {s t : String} (hs : '.' ∉ s.toList) (ht : '.' ∈ t.toList) : s ≠ t := by
  rintro rfl
  exact hs ht

theorem OutputForm.isName (h : OutputForm lang extension path directories stem) : ∀ d ∈ directories, IsName d := by
  intro d hd
  obtain ⟨hne, hdot⟩ := h.directories_named d hd
  exact ⟨hne, ne_of_dot hdot (by decide), ne_of_dot hdot (by decide)⟩

theorem OutputForm.directorySegments_eq (h : OutputForm lang extension path directories stem) :
    directorySegments path = directories := by
  unfold directorySegments
  rw [h.split, List.dropLast_concat]

theorem OutputForm.eq_intercalate (h : OutputForm lang extension path directories stem) :
    path = "/".intercalate (directories ++ [stem]) ++ extension := by
  rw [← intercalate_concat_append, ← h.split, Text.intercalate_splitOn]

theorem OutputForm.slash_not_mem (h : OutputForm lang extension path directories stem) :
    ∀ s ∈ directories ++ [stem], '/' ∉ s.toList := by
  have hall : ∀ s ∈ directories ++ [stem ++ extension], '/' ∉ s.toList := by
    intro s hs
    rw [← h.split] at hs
    exact Text.not_mem_of_mem_splitOn hs
  rw [List.forall_mem_append, List.forall_mem_singleton] at hall ⊢
  refine ⟨hall.1, fun hslash => hall.2 ?_⟩
  rw [String.toList_append]
  exact List.mem_append_left _ hslash

end

section

variable {lang : Target} {extension source target : String} {here there : List String} {stem stem' : String}

/-- The way to another file, with the extension still in its place. -/
theorem OutputForm.relativePath_eq (hsource : OutputForm lang extension source here stem)
    (htarget : OutputForm lang extension target there stem') (hdot : '.' ∈ extension.toList) :
    relativePath source target = hereMark here there ++ "/".intercalate (between here there ++ [stem' ++ extension]) := by
  have hfile : stem' ++ extension ∉ directorySegments source := by
    rw [hsource.directorySegments_eq]
    intro hmem
    refine (hsource.directories_named _ hmem).2 ?_
    rw [String.toList_append]
    exact List.mem_append_right _ hdot
  have hpath := ServiceStubs.relativePath_eq htarget.split hfile
  rwa [hsource.directorySegments_eq] at hpath

/-- Followed from the file, the way enters the name in the other directory. -/
theorem OutputForm.joinSpecifier_eq (hsource : OutputForm lang extension source here stem)
    (htarget : OutputForm lang extension target there stem') {mark name : String} (hmark : mark = "" ∨ mark = "./")
    (hname : '/' ∉ name.toList) :
    joinSpecifier source (mark ++ "/".intercalate (between here there ++ [name])) =
      "/".intercalate (enter there.reverse name).reverse := by
  obtain rfl := hsource.directorySegments_eq
  refine joinSpecifier_between hmark (fun d hd => (hsource.isName d hd).not_up) htarget.isName ?_
  have hslash := htarget.slash_not_mem
  rw [List.forall_mem_append] at hslash ⊢
  exact ⟨hslash.1, List.forall_mem_singleton.mpr hname⟩

end

/-! ## TypeScript -/

theorem head?_candidates {path : String} (h : ¬hasSourceExtension path) :
    (candidates path).head? = some (path ++ ".ts") := by
  unfold candidates
  rw [if_neg h]
  rfl

theorem hasSourceExtension_iff (path : String) :
    hasSourceExtension path ↔ ∃ e ∈ [".ts", ".mts", ".js", ".mjs"], e.toList <:+ path.toList := by
  unfold hasSourceExtension Text.endsWith
  simp [List.isSuffixOf_iff_suffix]

theorem not_hasSourceExtension_of_dot {path : String} (h : '.' ∉ path.toList) : ¬hasSourceExtension path := by
  rw [hasSourceExtension_iff]
  rintro ⟨e, he, hsuffix⟩
  have hdot : ∀ e ∈ [".ts", ".mts", ".js", ".mjs"], '.' ∈ e.toList := by decide
  exact h (hsuffix.subset (hdot e he))

/-- The extension of a path is that of its last segment. -/
theorem not_hasSourceExtension_intercalate {segments : List String} {name : String} (h : ¬hasSourceExtension name) :
    ¬hasSourceExtension ("/".intercalate (segments ++ [name])) := by
  by_cases hnil : segments = []
  · simpa [hnil] using h
  · rw [String.intercalate_append_of_ne_nil hnil (by simp), String.intercalate_singleton, hasSourceExtension_iff]
    rintro ⟨e, he, hsuffix⟩
    have hslash : ∀ e ∈ [".ts", ".mts", ".js", ".mjs"], '/' ∉ e.toList := by decide
    have hchars : ("/".intercalate segments ++ "/" ++ name).toList =
        ("/".intercalate segments).toList ++ '/' :: name.toList := by simp
    rw [hchars, Text.suffix_append_sep_iff (hslash e he)] at hsuffix
    exact h ((hasSourceExtension_iff name).mpr ⟨e, he, hsuffix⟩)

theorem mem_intercalate_concat {name : String} {c : Char} (h : c ∈ name.toList) (segments : List String) :
    c ∈ ("/".intercalate (segments ++ [name])).toList := by
  by_cases hnil : segments = []
  · simpa [hnil] using h
  · rw [String.intercalate_append_of_ne_nil hnil (by simp), String.intercalate_singleton, String.toList_append]
    exact List.mem_append_right _ h

theorem dot_not_mem_intercalate {segments : List String} (h : ∀ s ∈ segments, '.' ∉ s.toList) :
    '.' ∉ ("/".intercalate segments).toList := by
  induction segments with
  | nil => simp
  | cons s rest ih =>
    rw [List.forall_mem_cons] at h
    by_cases hnil : rest = []
    · simpa [hnil] using h.1
    · rw [String.intercalate_cons_of_ne_nil hnil]
      simp only [String.toList_append, List.mem_append, not_or]
      exact ⟨⟨h.1, by decide⟩, ih h.2⟩

namespace TypeScript

variable {source target : String} {here there : List String} {stem stem' : String}

theorem importSpecifier_eq (hsource : OutputForm .typeScript ".ts" source here stem)
    (htarget : OutputForm .typeScript ".ts" target there stem') :
    importSpecifier source target = hereMark here there ++ "/".intercalate (between here there ++ [stem']) := by
  unfold importSpecifier
  dsimp only
  rw [hsource.relativePath_eq htarget (by decide), intercalate_concat_append, ← String.append_assoc,
    Text.stripEnd?_append_self]
  rfl

/-- The name that is left when the extension is taken away has to be one: a segment `.` or `..` leads elsewhere,
but for `..` at the top. -/
theorem head?_candidates_importSpecifier (hsource : OutputForm .typeScript ".ts" source here stem)
    (htarget : OutputForm .typeScript ".ts" target there stem') :
    (candidates (joinSpecifier source (importSpecifier source target))).head? = some target ↔
      stem' ≠ "." ∧ (stem' = ".." → there = []) := by
  have hslash := htarget.slash_not_mem
  rw [List.forall_mem_append, List.forall_mem_singleton] at hslash
  have hmark : hereMark here there = "" ∨ hereMark here there = "./" := by
    unfold hereMark
    split
    · exact .inr rfl
    · exact .inl rfl
  rw [importSpecifier_eq hsource htarget, hsource.joinSpecifier_eq htarget hmark hslash.2]
  -- What loses its last segment has no dots left, and the path of the file has.
  have hlost : ∀ segments : List String, segments.reverse ⊆ there → '.' ∈ stem'.toList →
      (candidates ("/".intercalate segments.reverse)).head? ≠ some target := by
    intro segments hsegments hdot heq
    have hplain : '.' ∉ ("/".intercalate segments.reverse).toList :=
      dot_not_mem_intercalate fun s hs => (htarget.directories_named s (hsegments hs)).2
    rw [head?_candidates (not_hasSourceExtension_of_dot hplain), htarget.eq_intercalate, Option.some.injEq,
      String.append_left_inj] at heq
    exact hplain (heq ▸ mem_intercalate_concat hdot there)
  have hkept : enter there.reverse stem' = stem' :: there.reverse →
      (candidates ("/".intercalate (enter there.reverse stem').reverse)).head? = some target := by
    intro henter
    rw [henter, List.reverse_cons, List.reverse_reverse,
      head?_candidates (not_hasSourceExtension_intercalate htarget.stem_bare), ← htarget.eq_intercalate]
  by_cases hhere : stem' = "."
  · subst hhere
    have henter : enter there.reverse "." = there.reverse := rfl
    rw [henter]
    exact ⟨fun h => absurd h (hlost _ (by simp) (by decide)), fun h => absurd rfl h.1⟩
  · by_cases hup : stem' = ".."
    · subst hup
      rcases List.eq_nil_or_concat there with rfl | ⟨outer, last, rfl⟩
      · exact ⟨fun _ => ⟨hhere, fun _ => rfl⟩, fun _ => hkept rfl⟩
      · have hlast : last ≠ ".." := (htarget.isName last (by simp)).not_up
        have henter : enter (outer ++ [last]).reverse ".." = outer.reverse := by
          rw [List.reverse_append]
          unfold enter
          rw [if_neg (by decide), if_pos rfl]
          exact if_neg hlast
        rw [List.concat_eq_append, henter]
        exact ⟨fun h => absurd h (hlost _ (by simp) (by decide)), fun h => absurd (h.2 rfl) (by simp)⟩
    · have hname : IsName stem' := ⟨htarget.stem_nonempty, hhere, hup⟩
      exact ⟨fun _ => ⟨hhere, fun h => absurd h hup⟩, fun _ => hkept (enter_name hname _)⟩

/-- What the target writes keeps a name when the extension is taken away. -/
theorem stem_of_places (htarget : OutputForm .typeScript ".ts" target there stem') (h : emitter.Places target) :
    stem' ≠ "." ∧ stem' ≠ ".." := by
  have hwhole : ∀ {name : String}, target = name ++ ".ts" → "/".intercalate (there ++ [stem']) = name := by
    intro name hname
    rw [htarget.eq_intercalate] at hname
    exact (String.append_left_inj _).mp hname
  have hplain : ∀ name : String, target = name ++ ".ts" → '.' ∉ name.toList → stem' ≠ "." ∧ stem' ≠ ".." := by
    intro name hname hdot
    have hnone : '.' ∉ stem'.toList := fun hmem => hdot (hwhole hname ▸ mem_intercalate_concat hmem there)
    exact ⟨ne_of_dot hnone (by decide), ne_of_dot hnone (by decide)⟩
  generalize hpath : target = path at h
  cases h with
  | client className =>
    have hslash : '/' ∉ (Text.lowerCamel className ++ ".sdk").toList := by
      rw [String.toList_append, List.mem_append, not_or]
      exact ⟨Text.slash_not_mem_lowerCamel className, by decide⟩
    have hclient : target = Text.lowerCamel className ++ ".sdk" ++ ".ts" := by
      rw [hpath, String.append_assoc]
      rfl
    -- The name of a client has no slash, so that it is all of the path.
    have hsegments : there ++ [stem'] = [Text.lowerCamel className ++ ".sdk"] := by
      rw [← Text.splitOn_of_not_mem hslash, ← hwhole hclient,
        Text.splitOn_intercalate (by simp) htarget.slash_not_mem]
    have hstem : stem' = Text.lowerCamel className ++ ".sdk" := by
      simpa using congrArg List.getLast? hsegments
    have hname : IsName stem' := by
      apply isName_of_length
      rw [hstem, String.toList_append, List.length_append]
      exact Nat.le_add_left_of_le (by decide)
    exact ⟨hname.not_here, hname.not_up⟩
  | model modulePath =>
    refine hplain (safeModulePath modulePath) hpath ?_
    unfold safeModulePath
    rw [String.toList_ofList]
    intro hmem
    obtain ⟨c, -, hc⟩ := List.mem_map.mp hmem
    exact safeChar_ne_dot c hc
  | runtime => exact hplain "remote" hpath (by decide)

end TypeScript

/-! ## Dart -/

namespace Dart

variable {source target : String} {here there : List String} {stem stem' : String}

/-- A path is written as it is, without the mark in front. -/
theorem importPath_eq (hsource : OutputForm .dart ".dart" source here stem)
    (htarget : OutputForm .dart ".dart" target there stem') :
    importPath source target = "/".intercalate (between here there ++ [stem' ++ ".dart"]) := by
  unfold importPath
  rw [hsource.relativePath_eq htarget (by decide)]
  unfold hereMark
  dsimp only
  by_cases hups : here.length - commonLength here there = 0
  · rw [if_pos hups]
    generalize "/".intercalate (between here there ++ [stem' ++ ".dart"]) = path
    rw [String.toList_append]
    exact String.ofList_toList
  · obtain ⟨ups, hups'⟩ := Nat.exists_eq_succ_of_ne_zero hups
    unfold between
    rw [if_neg hups, hups', List.replicate_succ, List.cons_append, List.cons_append,
      String.intercalate_cons_of_ne_nil (by simp), String.empty_append]
    simp only [String.toList_append]
    rfl

theorem joinSpecifier_importPath (hsource : OutputForm .dart ".dart" source here stem)
    (htarget : OutputForm .dart ".dart" target there stem') :
    joinSpecifier source (importPath source target) = target := by
  have hname : IsName (stem' ++ ".dart") := by
    apply isName_of_length
    rw [String.toList_append, List.length_append]
    exact Nat.le_add_left_of_le (by decide)
  have hslash : '/' ∉ (stem' ++ ".dart").toList :=
    Text.not_mem_of_mem_splitOn (htarget.split ▸ List.mem_append_right _ (List.mem_singleton_self _))
  have hjoined := hsource.joinSpecifier_eq htarget (.inl rfl) hslash
  rw [String.empty_append, ← importPath_eq hsource htarget, enter_name hname, List.reverse_cons,
    List.reverse_reverse, ← htarget.split, Text.intercalate_splitOn] at hjoined
  exact hjoined

end Dart

/-! ## Python -/

namespace Python

variable {source target : String} {here there : List String} {stem stem' : String}

/-- A reference is a dot for the package of the file, one for each package to climb, and the names below. -/
theorem importModule_eq (hsource : OutputForm .python ".py" source here stem)
    (htarget : OutputForm .python ".py" target there stem') :
    importModule source target = String.join (List.replicate (1 + here.length - commonLength here there) ".") ++
      ".".intercalate (there.drop (commonLength here there) ++ [stem']) := by
  have hthere : Text.splitOn '/' ((Text.stripEnd? target ".py").getD target) = there ++ [stem'] := by
    rw [htarget.eq_intercalate, Text.stripEnd?_append_self, Option.getD_some]
    exact Text.splitOn_intercalate (by simp) htarget.slash_not_mem
  unfold importModule
  dsimp only
  rw [hthere, hsource.directorySegments_eq, List.dropLast_concat,
    List.drop_append_of_le_length (commonLength_le_length here there).2]

theorem splitOn_dotted {names : List String} (hne : names ≠ []) (h : ∀ n ∈ names, '.' ∉ n.toList) :
    Text.splitOn '.' (".".intercalate names) = names := by
  have hchars : (".".intercalate names).toList = ['.'].intercalate (names.map String.toList) :=
    String.toList_intercalate
  unfold Text.splitOn
  rw [hchars, Text.splitAt_intercalate (by simpa using hne) (by simpa using h), List.map_map]
  simp [Function.comp_def]

/-- The dots end where the first name begins. -/
theorem dotted_eq_cons {names : List String} (hne : names ≠ []) (h : ∀ n ∈ names, n ≠ "" ∧ '.' ∉ n.toList) :
    ∃ c rest, (".".intercalate names).toList = c :: rest ∧ c ≠ '.' := by
  cases names with
  | nil => exact absurd rfl hne
  | cons first more =>
    obtain ⟨hfirst, hdot⟩ := h first List.mem_cons_self
    obtain ⟨c, cs, hcs⟩ := List.exists_cons_of_ne_nil (String.toList_eq_nil_iff.not.mpr hfirst)
    have hc : c ≠ '.' := by
      rintro rfl
      exact hdot (hcs ▸ List.mem_cons_self)
    by_cases hmore : more = []
    · exact ⟨c, cs, by rw [hmore, String.intercalate_singleton, hcs], hc⟩
    · refine ⟨c, cs ++ ("." ++ ".".intercalate more).toList, ?_, hc⟩
      rw [String.intercalate_cons_of_ne_nil hmore, String.append_assoc, String.toList_append, hcs]
      rfl

/-- The dots of a reference climb, and the names behind them lead down. -/
theorem importedModule?_of_dotted (source : String) (climbs : Nat) {names : List String} (hne : names ≠ [])
    (hnames : ∀ n ∈ names, n ≠ "" ∧ '.' ∉ n.toList) (hclimbs : climbs ≤ (directorySegments source).length) :
    importedModule? source (String.join (List.replicate (1 + climbs) ".") ++ ".".intercalate names) =
      some ("/".intercalate ((directorySegments source).take ((directorySegments source).length - climbs) ++ names)) := by
  obtain ⟨c, rest, hrest, hc⟩ := dotted_eq_cons hne hnames
  have hdots : ∀ count, (String.join (List.replicate count ".")).toList = List.replicate count '.' := by
    intro count
    induction count with
    | zero => rfl
    | succ count ih =>
      rw [List.replicate_succ, String.join_cons, String.toList_append, ih]
      rfl
  have hall : ∀ d ∈ List.replicate (1 + climbs) '.', decide (d = '.') = true := by
    intro d hd
    rw [List.eq_of_mem_replicate hd]
    rfl
  have hnonempty : ".".intercalate names ≠ "" := by
    intro hempty
    rw [hempty] at hrest
    cases hrest
  -- The dots end where the first name begins, and this does not begin with one.
  unfold importedModule?
  dsimp only
  rw [String.toList_append, hdots, List.takeWhile_append_of_pos hall, List.dropWhile_append_of_pos hall, hrest,
    List.takeWhile_cons_of_neg (by simpa using hc), List.dropWhile_cons_of_neg (by simpa using hc), ← hrest,
    String.ofList_toList, if_neg hnonempty, splitOn_dotted hne fun n hn => (hnames n hn).2, List.append_nil,
    List.length_replicate, if_pos ⟨by omega, by omega⟩]
  have htake : (directorySegments source).length + 1 - (1 + climbs) = (directorySegments source).length - climbs := by
    omega
  rw [htake]

theorem importedModule?_importModule (hsource : OutputForm .python ".py" source here stem)
    (htarget : OutputForm .python ".py" target there stem') :
    importedModule? source (importModule source target) = some ("/".intercalate (there ++ [stem'])) := by
  have hle := (commonLength_le_length here there).1
  have hnames : ∀ n ∈ there.drop (commonLength here there) ++ [stem'], n ≠ "" ∧ '.' ∉ n.toList := by
    rw [List.forall_mem_append, List.forall_mem_singleton]
    exact ⟨fun n hn => htarget.directories_named n (List.mem_of_mem_drop hn), htarget.stem_nonempty,
      htarget.stem_plain rfl⟩
  have hmodule := importedModule?_of_dotted source (here.length - commonLength here there) (by simp) hnames
    (by rw [hsource.directorySegments_eq]; exact Nat.sub_le _ _)
  rw [hsource.directorySegments_eq, Nat.sub_sub_self hle, take_commonLength, ← List.append_assoc,
    List.take_append_drop, ← Nat.add_sub_assoc hle] at hmodule
  rw [importModule_eq hsource htarget, hmodule]

end Python

/-! ## The round trip -/

/-- What a file writes to import from another one leads to that file, unless the specifier of TypeScript loses
the last segment: that happens to a stem `.`, and to a stem `..` below the top. No file that the target writes
has such a stem. -/
theorem leadsTo_written_iff {lang : Target} {rules : ImportRules} (hrules : lang.importRules? = some rules)
    {source target : String} {here there : List String} {stem stem' : String}
    (hsource : OutputForm lang rules.extension source here stem)
    (htarget : OutputForm lang rules.extension target there stem') :
    (rules.leadsTo? source (rules.written source target) = some target ↔
        (lang = .typeScript → stem' ≠ "." ∧ (stem' = ".." → there = []))) ∧
      (lang.emitter.Places target → rules.leadsTo? source (rules.written source target) = some target) := by
  -- The other targets have no rules for imports of files.
  cases lang with
  | typeScript =>
    cases hrules
    dsimp only
    have hiff := TypeScript.head?_candidates_importSpecifier hsource htarget
    refine ⟨hiff.trans (by simp), fun hplaced => hiff.mpr ?_⟩
    obtain ⟨hhere, hup⟩ := TypeScript.stem_of_places htarget hplaced
    exact ⟨hhere, fun h => absurd h hup⟩
  | python =>
    cases hrules
    dsimp only
    have hleads : (Python.importedModule? source (Python.importModule source target)).map (· ++ ".py") =
        some target := by
      rw [Python.importedModule?_importModule hsource htarget, Option.map_some, ← htarget.eq_intercalate]
    exact ⟨iff_of_true hleads (fun h => by cases h), fun _ => hleads⟩
  | dart =>
    cases hrules
    dsimp only
    have hleads : some (joinSpecifier source (Dart.importPath source target)) = some target := by
      rw [Dart.joinSpecifier_importPath hsource htarget]
    exact ⟨iff_of_true hleads (fun h => by cases h), fun _ => hleads⟩
  | javaScript => cases hrules
  | swift => cases hrules
  | kotlin => cases hrules
  | go => cases hrules

/-- From one module to another, two directories up and one down. -/
theorem leadsTo_written_models :
    TypeScript.importSpecifier "src/models/user.ts" "shared/ids.ts" = "../../shared/ids" ∧
      (candidates (joinSpecifier "src/models/user.ts" "../../shared/ids")).head? = some "shared/ids.ts" := by
  have hsource : OutputForm .typeScript ".ts" "src/models/user.ts" ["src", "models"] "user" :=
    ⟨by decide, by decide, by decide, by decide, by decide⟩
  have htarget : OutputForm .typeScript ".ts" "shared/ids.ts" ["shared"] "ids" :=
    ⟨by decide, by decide, by decide, by decide, by decide⟩
  have hwritten : TypeScript.importSpecifier "src/models/user.ts" "shared/ids.ts" = "../../shared/ids" := by decide
  refine ⟨hwritten, ?_⟩
  have hrules : Target.typeScript.importRules? = some _ := rfl
  have hleads := (leadsTo_written_iff hrules hsource htarget).2 (.model "shared/ids")
  rw [← hwritten]
  exact hleads

/-- A file whose name is only the extension behind a dot satisfies the form, and its specifier names the
directory. -/
theorem leadsTo_written_dot :
    ∃ rules, Target.typeScript.importRules? = some rules ∧
      OutputForm .typeScript rules.extension "a.ts" [] "a" ∧
      OutputForm .typeScript rules.extension "..ts" [] "." ∧
      rules.written "a.ts" "..ts" = "./." ∧ rules.leadsTo? "a.ts" "./." = some ".ts" := by
  refine ⟨_, rfl, ⟨by decide, by decide, by decide, by decide, by decide⟩,
    ⟨by decide, by decide, by decide, by decide, by decide⟩, by decide, by decide⟩

end ServiceStubs
