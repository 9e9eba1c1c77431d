import Mathlib.Data.List.TakeWhile
import ServiceStubs.Proofs.Files.Confinement

/-!
# The way to a place

A path leads from its origin to a place, step by step. Which places these are does not depend on what is in
the tree, only whether the way can be gone.

* `Files.steps` are the segments of a path that lead somewhere, and `FileTree.way` the places they lead
  through;
* `steps_join`, `steps_parent?` and `steps_of_fileName?` are the steps of paths that are made from others;
* `directoryAt_iff` says when a path names a directory, and `locate?_of_way` when it names a place;
* `locate?_eq_goal` says which place a path names, if it names one.
-/

namespace ServiceStubs

/-! ## Steps -/

namespace Files

/-- Whether a segment leads somewhere. -/
def isStep (segment : String) : Bool :=
  segment ≠ "" && segment ≠ "."

/-- The segments of a path that lead somewhere. -/
def steps (path : String) : List String :=
  (Text.splitOn '/' path).filter isStep

theorem isStep_of_isName {name : String} (h : IsName name) : isStep name := by
  simp [isStep, h.nonempty, h.not_here]

theorem ne_empty_of_isStep {segment : String} (h : isStep segment) : segment ≠ "" := by
  rintro rfl
  cases h

theorem isStep_of_isVoid {segment : String} (h : isVoid false segment) : isStep segment = false := by
  unfold isVoid at h
  unfold isStep
  by_cases hempty : segment = ""
  · simp [hempty]
  · simp [hempty] at h
    simp [h]

theorem filter_dropVoid (segments : List String) : (dropVoid segments).filter isStep = segments.filter isStep := by
  fun_induction dropVoid segments with
  | case1 => rfl
  | case2 => rfl
  | case3 first hne => rfl
  | case4 first rest hrest hvoid ih => rw [ih, List.filter_cons_of_neg (by simp [isStep_of_isVoid hvoid])]
  | case5 first rest hrest hvoid => rfl

theorem filter_dropWhile (segments : List String) :
    (segments.dropWhile (isVoid false)).filter isStep = segments.filter isStep := by
  induction segments with
  | nil => rfl
  | cons first rest ih =>
    by_cases hvoid : isVoid false first
    · rw [List.dropWhile_cons_of_pos hvoid, ih, List.filter_cons_of_neg (by simp [isStep_of_isVoid hvoid])]
    · rw [List.dropWhile_cons_of_neg hvoid]

theorem steps_empty : steps "" = [] := rfl

/-- The root of an absolute path is no step. -/
theorem splitOn_of_isAbsolute {path : String} (h : isAbsolute path) :
    ∃ body, Text.splitOn '/' path = "" :: body := by
  have hne : path ≠ "" := by
    rintro rfl
    cases h
  have hhead := (isAbsolute_iff hne).mp h
  rcases hsplit : Text.splitOn '/' path with _ | ⟨first, body⟩
  · exact absurd hsplit (Text.splitOn_ne_nil '/' path)
  · rw [hsplit] at hhead
    obtain rfl : first = "" := Option.some.inj hhead
    exact ⟨body, rfl⟩

/-- The steps of a path are those of its body. -/
theorem steps_eq_body (path : String) : steps path = ((bodyBackward path).filter isStep).reverse := by
  unfold steps bodyBackward segmentsBackward
  split
  · rename_i habsolute
    obtain ⟨body, hsplit⟩ := splitOn_of_isAbsolute habsolute
    rw [filter_dropWhile, hsplit, List.reverse_cons, List.dropLast_concat, ← List.filter_reverse,
      List.reverse_reverse, List.filter_cons_of_neg (by decide)]
  · rw [filter_dropVoid, ← List.filter_reverse, List.reverse_reverse]

theorem slash_not_mem_bodyBackward {path segment : String} (h : segment ∈ bodyBackward path) :
    '/' ∉ segment.toList := by
  have hmem : segment ∈ (Text.splitOn '/' path).reverse := by
    unfold bodyBackward at h
    split at h
    · exact List.dropLast_subset _ ((List.dropWhile_sublist _).subset h)
    · exact mem_dropVoid h
  exact Text.not_mem_of_mem_splitOn (List.mem_reverse.mp hmem)

/-- The segments of a path that has been put together from segments, some of which may be missing. -/
theorem filter_splitOn_intercalate {segments : List String} (h : ∀ s ∈ segments, '/' ∉ s.toList) :
    (Text.splitOn '/' ("/".intercalate segments)).filter isStep = segments.filter isStep := by
  rcases segments with _ | ⟨first, rest⟩
  · rfl
  · rw [Text.splitOn_intercalate (by simp) h]

theorem dropVoid_suffix (segments : List String) : dropVoid segments <:+ segments := by
  fun_induction dropVoid segments with
  | case1 => exact List.suffix_refl _
  | case2 => exact List.nil_suffix
  | case3 first hne => exact List.suffix_refl _
  | case4 first rest hrest hvoid ih => exact ih.trans (List.suffix_cons first rest)
  | case5 first rest hrest hvoid => exact List.suffix_refl _

theorem dropVoid_head {segments outer : List String} {last : String} (h : dropVoid segments = last :: outer) :
    last ≠ "" ∧ (isStep last ∨ outer = []) := by
  fun_induction dropVoid segments with
  | case1 => cases h
  | case2 => cases h
  | case3 first hne =>
    cases h
    exact ⟨hne, .inr rfl⟩
  | case4 first rest hrest hvoid ih => exact ih h
  | case5 first rest hrest hvoid =>
    cases h
    have hstep : isStep last := by simpa [isStep, isVoid] using hvoid
    exact ⟨ne_empty_of_isStep hstep, .inl hstep⟩

/-- The last segment of a body is a step, unless there is no other one. -/
theorem bodyBackward_head {path last : String} {outer : List String} (h : bodyBackward path = last :: outer) :
    last ≠ "" ∧ (isStep last ∨ outer = []) := by
  unfold bodyBackward at h
  split at h
  · have hhead := List.head?_dropWhile_not (isVoid false) (segmentsBackward path).dropLast
    rw [h] at hhead
    have hstep : isStep last := by simpa [isStep, isVoid] using hhead
    exact ⟨ne_empty_of_isStep hstep, .inl hstep⟩
  · exact dropVoid_head h

/-- The path that is put together from the first segments of a relative path is relative. -/
theorem not_isAbsolute_intercalate {path : String} (h : ¬isAbsolute path) {segments : List String}
    (hunder : segments <+: Text.splitOn '/' path) : ¬isAbsolute ("/".intercalate segments) := by
  rcases segments with _ | ⟨first, rest⟩
  · decide
  · have hslash : ∀ s ∈ first :: rest, '/' ∉ s.toList := fun s hs =>
      Text.not_mem_of_mem_splitOn (hunder.subset hs)
    have hsplit := Text.splitOn_intercalate (by simp) hslash
    intro habsolute
    obtain ⟨body, hbody⟩ := splitOn_of_isAbsolute habsolute
    rw [hsplit] at hbody
    obtain ⟨rfl, -⟩ := List.cons.inj hbody
    obtain ⟨more, hmore⟩ := hunder
    by_cases hempty : path = ""
    · subst hempty
      have hsingle : Text.splitOn '/' "" = [""] := rfl
      rw [hsingle, List.cons_append, List.cons.injEq, List.append_eq_nil_iff] at hmore
      rw [hmore.2.1] at habsolute
      cases habsolute
    · refine h ((isAbsolute_iff hempty).mpr ?_)
      rw [← hmore]
      rfl

/-- The parent of a path has all steps of the path but the last one, and the same root. A path without steps
has a parent without steps, if it has one. -/
theorem steps_parent? {path parent : String} (h : parent? path = some parent) :
    steps parent = (steps path).dropLast ∧ isAbsolute parent = isAbsolute path := by
  rcases hbody : bodyBackward path with _ | ⟨last, outer⟩
  · unfold parent? at h
    rw [hbody] at h
    cases h
  · have hdropLast : (steps path).dropLast = (outer.filter isStep).reverse := by
      rw [steps_eq_body, hbody]
      rcases (bodyBackward_head hbody).2 with hstep | rfl
      · rw [List.filter_cons_of_pos hstep, List.reverse_cons, List.dropLast_concat]
      · cases hstep : isStep last <;> simp [hstep]
    have hslash : ∀ s ∈ outer, '/' ∉ s.toList := fun s hs =>
      slash_not_mem_bodyBackward (hbody ▸ List.mem_cons_of_mem last hs)
    rw [hdropLast]
    unfold parent? at h
    rw [hbody] at h
    dsimp only at h
    split at h
    · -- The parent of an absolute path begins with the separator, which adds no step.
      rename_i habsolute
      cases h
      have hsplit : "/" ++ "/".intercalate (outer.dropWhile (isVoid false)).reverse =
          "" ++ "/" ++ "/".intercalate (outer.dropWhile (isVoid false)).reverse := by simp
      refine ⟨?_, ?_⟩
      · unfold steps
        rw [hsplit, Text.splitOn_append, List.filter_append, filter_splitOn_intercalate, List.filter_reverse,
          filter_dropWhile]
        · rfl
        · intro s hs
          exact hslash s ((List.dropWhile_sublist _).subset (List.mem_reverse.mp hs))
      · rw [habsolute]
        simp [isAbsolute]
    · -- What is left of a relative path is not empty in front, so that its parent does not become
      -- absolute by itself.
      rename_i hrelative
      cases h
      refine ⟨?_, ?_⟩
      · unfold steps
        rw [filter_splitOn_intercalate, List.filter_reverse, filter_dropVoid]
        intro s hs
        exact hslash s (mem_dropVoid (List.mem_reverse.mp hs))
      · rw [Bool.eq_false_iff.mpr hrelative]
        refine Bool.eq_false_iff.mpr (not_isAbsolute_intercalate hrelative ?_)
        rw [← List.reverse_suffix, List.reverse_reverse]
        have houter : outer <:+ bodyBackward path := hbody ▸ List.suffix_cons last outer
        have hbodySuffix : bodyBackward path <:+ (Text.splitOn '/' path).reverse := by
          unfold bodyBackward segmentsBackward
          rw [if_neg hrelative]
          exact dropVoid_suffix _
        exact (dropVoid_suffix outer).trans (houter.trans hbodySuffix)

/-- A path with a name has a parent, whose steps the name follows. -/
theorem steps_of_fileName? {path name : String} (h : fileName? path = some name) :
    ∃ parent, parent? path = some parent ∧ steps path = steps parent ++ [name] ∧ IsName name := by
  obtain ⟨hhead, hname⟩ := Option.filter_eq_some_iff.mp h
  rw [decide_eq_true_iff] at hname
  rcases hbody : bodyBackward path with _ | ⟨last, outer⟩
  · rw [hbody] at hhead
    cases hhead
  · rw [hbody] at hhead
    obtain rfl : last = name := Option.some.inj hhead
    have hisName : IsName last := ⟨(bodyBackward_head hbody).1, hname.1, hname.2⟩
    obtain ⟨parent, hparent⟩ : ∃ parent, parent? path = some parent := by
      unfold parent?
      rw [hbody]
      exact ⟨_, rfl⟩
    refine ⟨parent, hparent, ?_, hisName⟩
    rw [(steps_parent? hparent).1, steps_eq_body, hbody, List.filter_cons_of_pos (isStep_of_isName hisName),
      List.reverse_cons, List.dropLast_concat]

/-- The steps of a file as seen from a directory. -/
theorem steps_join (directory : String) {path : String} (h : ¬isAbsolute path) :
    steps (join directory path) = steps directory ++ steps path ∧
      isAbsolute (join directory path) = isAbsolute directory := by
  have hhead : ∀ rest : String, directory ≠ "" → isAbsolute (directory ++ rest) = isAbsolute directory := by
    intro rest hne
    unfold isAbsolute
    rw [String.toList_append]
    rcases hchars : directory.toList with _ | ⟨c, cs⟩
    · exact absurd (String.toList_eq_nil_iff.mp hchars) hne
    · rfl
  have hslash : ∀ front : String, steps (front ++ "/" ++ path) = steps front ++ steps path := by
    intro front
    unfold steps
    rw [Text.splitOn_append, List.filter_append]
  unfold join
  -- The three ways to join: alone, after a slash that is there, and after one that is added.
  by_cases hempty : directory = ""
  · subst hempty
    rw [if_pos (.inr rfl)]
    exact ⟨rfl, Bool.eq_false_iff.mpr h⟩
  · rw [if_neg (by simp [h, hempty])]
    split
    · rename_i hends
      obtain ⟨front, hfront⟩ := List.isSuffixOf_iff_suffix.mp hends
      obtain rfl : directory = String.ofList front ++ "/" := by
        apply String.toList_inj.mp
        rw [← hfront]
        simp
      refine ⟨?_, hhead path hempty⟩
      have htrailing : steps (String.ofList front ++ "/") = steps (String.ofList front) := by
        have hsplit := Text.splitOn_append (String.ofList front) ""
        rw [String.append_empty] at hsplit
        unfold steps
        rw [hsplit, List.filter_append]
        simp [Text.splitOn, Text.splitAt, isStep]
      rw [hslash, htrailing]
    · refine ⟨hslash directory, ?_⟩
      rw [String.append_assoc]
      exact hhead _ hempty

end Files

/-! ## Places -/

namespace FileTree

/-- The places that steps lead through, from the first one to the last. -/
def way (here : TreePlace) : List String → List TreePlace
  | [] => [here]
  | step :: rest => here :: way (next here step) rest

/-- The place to which steps lead. -/
def goal (here : TreePlace) (steps : List String) : TreePlace :=
  steps.foldl next here

/-- The place from which a path starts. -/
def origin (t : FileTree) (path : String) : TreePlace :=
  if Files.isAbsolute path then [] else t.working

theorem goal_append (here : TreePlace) (front back : List String) :
    goal here (front ++ back) = goal (goal here front) back :=
  List.foldl_append

/-- Names lead down. -/
theorem goal_names (here : TreePlace) {names : List String} (h : ∀ s ∈ names, IsName s) :
    goal here names = here ++ names := by
  induction names generalizing here with
  | nil => exact (List.append_nil here).symm
  | cons name rest ih =>
    have hnext := next_of_isName here (h name List.mem_cons_self)
    calc goal here (name :: rest) = goal (here ++ [name]) rest := by rw [← hnext]; rfl
      _ = here ++ [name] ++ rest := ih (here ++ [name]) fun s hs => h s (List.mem_cons_of_mem name hs)
      _ = here ++ name :: rest := by simp

theorem mem_way_self (here : TreePlace) (steps : List String) : here ∈ way here steps := by
  cases steps <;> simp [way]

theorem goal_mem_way (here : TreePlace) (steps : List String) : goal here steps ∈ way here steps := by
  induction steps generalizing here with
  | nil => exact List.mem_singleton_self here
  | cons step rest ih => exact List.mem_cons_of_mem here (ih (next here step))

/-- The way along some steps and then others. -/
theorem mem_way_append {here place : TreePlace} {front back : List String} :
    place ∈ way here (front ++ back) ↔ place ∈ way here front ∨ place ∈ way (goal here front) back := by
  induction front generalizing here with
  | nil =>
    have hself := mem_way_self here back
    simp only [List.nil_append, way, goal, List.foldl_nil, List.mem_singleton]
    constructor
    · exact .inr
    · rintro (rfl | h)
      · exact hself
      · exact h
  | cons step rest ih =>
    have hgoal : goal here (step :: rest) = goal (next here step) rest := rfl
    simp only [List.cons_append, way, List.mem_cons, ih, hgoal, or_assoc]

/-- Without the last step, the way is a part of the whole one. -/
theorem mem_way_of_dropLast {here place : TreePlace} {steps : List String} (h : place ∈ way here steps.dropLast) :
    place ∈ way here steps := by
  rcases List.eq_nil_or_concat steps with rfl | ⟨outer, last, rfl⟩
  · exact h
  · rw [List.concat_eq_append] at h ⊢
    rw [List.dropLast_concat] at h
    exact mem_way_append.mpr (.inl h)

/-- The way along names. -/
theorem mem_way_names {here place : TreePlace} {names : List String} (h : ∀ s ∈ names, IsName s) :
    place ∈ way here names ↔ ∃ front, front <+: names ∧ place = here ++ front := by
  induction names generalizing here with
  | nil => simp [way]
  | cons name rest ih =>
    have hnext := next_of_isName here (h name List.mem_cons_self)
    rw [way, List.mem_cons, hnext, ih fun s hs => h s (List.mem_cons_of_mem name hs)]
    constructor
    · rintro (rfl | ⟨front, hfront, rfl⟩)
      · exact ⟨[], List.nil_prefix, by simp⟩
      · exact ⟨name :: front, (List.prefix_cons_inj name).mpr hfront, by simp⟩
    · rintro ⟨front, hfront, rfl⟩
      rcases front with _ | ⟨first, front⟩
      · exact .inl (List.append_nil here)
      · obtain ⟨rfl, hrest⟩ := List.cons_prefix_cons.mp hfront
        exact .inr ⟨front, hrest, by simp⟩

theorem next_of_not_isStep (here : TreePlace) {segment : String} (h : Files.isStep segment = false) :
    next here segment = here := by
  unfold next
  rw [if_pos]
  by_cases hempty : segment = ""
  · exact .inl hempty
  · exact .inr (by simpa [Files.isStep, hempty] using h)

/-- If segments lead to a directory, they do so by their steps, through directories. -/
theorem walk?_directory_iff {t : FileTree} {here place : TreePlace} {segments : List String} :
    (t.walk? here segments = some place ∧ t.isDirectory place) ↔
      place = goal here (segments.filter Files.isStep) ∧
        ∀ q ∈ way here (segments.filter Files.isStep), t.isDirectory q := by
  induction segments generalizing here with
  | nil =>
    simp only [walk?, Option.some.injEq, List.filter_nil, goal, List.foldl_nil, way, List.mem_singleton]
    constructor
    · rintro ⟨rfl, h⟩
      exact ⟨rfl, fun q hq => hq ▸ h⟩
    · rintro ⟨rfl, h⟩
      exact ⟨rfl, h _ rfl⟩
  | cons segment rest ih =>
    rw [walk?_cons]
    cases hstep : Files.isStep segment with
    | false =>
      -- Segments that are no steps lead nowhere, but only a directory has them.
      rw [List.filter_cons_of_neg (by simp [hstep]), next_of_not_isStep here hstep]
      constructor
      · rintro ⟨hwalk, hplace⟩
        split at hwalk
        · exact ih.mp ⟨hwalk, hplace⟩
        · cases hwalk
      · intro h
        rw [if_pos (h.2 here (mem_way_self here _))]
        exact ih.mpr h
    | true =>
      rw [List.filter_cons_of_pos hstep]
      have hgoal : goal here (segment :: rest.filter Files.isStep) =
          goal (next here segment) (rest.filter Files.isStep) := rfl
      rw [hgoal, way, List.forall_mem_cons]
      constructor
      · rintro ⟨hwalk, hplace⟩
        split at hwalk
        · rename_i hhere
          obtain ⟨heq, hall⟩ := ih.mp ⟨hwalk, hplace⟩
          exact ⟨heq, hhere, hall⟩
        · cases hwalk
      · rintro ⟨heq, hhere, hall⟩
        rw [if_pos hhere]
        exact ih.mpr ⟨heq, hall⟩

/-- Wherever segments lead, they do so by their steps. -/
theorem walk?_eq_goal {t : FileTree} {here place : TreePlace} {segments : List String}
    (h : t.walk? here segments = some place) : place = goal here (segments.filter Files.isStep) := by
  induction segments generalizing here with
  | nil =>
    cases h
    rfl
  | cons segment rest ih =>
    rw [walk?_cons] at h
    split at h
    · rw [ih h]
      cases hstep : Files.isStep segment with
      | false => rw [List.filter_cons_of_neg (by simp [hstep]), next_of_not_isStep here hstep]
      | true => rw [List.filter_cons_of_pos hstep]; rfl
    · cases h

/-- The segments of a path without empty ones at the end. -/
def trimmed (path : String) : List String :=
  ((Text.splitOn '/' path).reverse.dropWhile (· = "")).reverse

theorem filter_trimmed (path : String) : (trimmed path).filter Files.isStep = Files.steps path := by
  have hdrop : ∀ segments : List String, (segments.dropWhile (· = "")).filter Files.isStep =
      segments.filter Files.isStep := by
    intro segments
    induction segments with
    | nil => rfl
    | cons first rest ih =>
      by_cases hfirst : first = ""
      · subst hfirst
        rw [List.dropWhile_cons_of_pos (by simp), ih]
        rfl
      · rw [List.dropWhile_cons_of_neg (by simpa using hfirst)]
  unfold trimmed Files.steps
  rw [List.filter_reverse, hdrop, ← List.filter_reverse, List.reverse_reverse]

theorem locate?_eq_walk? (t : FileTree) {path : String} (h : path ≠ "") :
    t.locate? path = t.walk? (t.origin path) (trimmed path) := by
  unfold locate?
  rw [if_neg h]
  rfl

/-- A path names something only if it starts from a directory. -/
theorem isDirectory_origin {t : FileTree} {path : String} {place : TreePlace} (h : t.locate? path = some place) :
    t.isDirectory (t.origin path) := by
  have hne : path ≠ "" := by
    rintro rfl
    cases h
  rw [locate?_eq_walk? t hne] at h
  rcases hsegments : trimmed path with _ | ⟨first, rest⟩
  · -- A path without segments is that of the root.
    have habsolute : Files.isAbsolute path := by
      obtain ⟨head, tail, hsplit⟩ := List.exists_cons_of_ne_nil (Text.splitOn_ne_nil '/' path)
      have hempty : head = "" := by
        unfold trimmed at hsegments
        rw [List.reverse_eq_nil_iff, List.dropWhile_eq_nil_iff] at hsegments
        simpa using hsegments head (by simp [hsplit])
      rw [isAbsolute_iff hne, hsplit, hempty]
      rfl
    unfold origin
    rw [if_pos habsolute]
    rfl
  · by_contra hnot
    rw [hsegments, walk?_cons, if_neg hnot] at h
    cases h

/-- A path names a directory if and only if its steps lead through directories. -/
theorem directoryAt_iff {t : FileTree} {path : String} {place : TreePlace} (h : path ≠ "") :
    t.DirectoryAt path place ↔ place = goal (t.origin path) (Files.steps path) ∧
      ∀ q ∈ way (t.origin path) (Files.steps path), t.isDirectory q := by
  rw [← filter_trimmed path, ← walk?_directory_iff, ← locate?_eq_walk? t h]
  exact ⟨fun h => ⟨h.located, h.directory⟩, fun h => ⟨h.1, h.2⟩⟩

/-- The place that a path names, if it names one. -/
theorem locate?_eq_goal {t : FileTree} {path : String} {place : TreePlace} (h : t.locate? path = some place) :
    place = goal (t.origin path) (Files.steps path) := by
  have hne : path ≠ "" := by
    rintro rfl
    cases h
  rw [locate?_eq_walk? t hne] at h
  rw [walk?_eq_goal h, filter_trimmed]

/-- A path whose last segment is a name names a place as soon as there is a directory for it. -/
theorem locate?_of_way {t : FileTree} {path : String} (hends : endsInName path)
    (hway : ∀ q ∈ way (t.origin path) (Files.steps path).dropLast, t.isDirectory q) :
    t.locate? path = some (goal (t.origin path) (Files.steps path)) := by
  have hne : path ≠ "" := by
    rintro rfl
    cases hends
  -- Behind the last name there are empty segments at most, and none of them is a step.
  obtain ⟨outer, last, htrimmed, hlast⟩ : ∃ outer last, trimmed path = outer ++ [last] ∧ IsName last := by
    unfold endsInName at hends
    unfold trimmed
    rcases hsegments : (Text.splitOn '/' path).reverse.dropWhile (· = "") with _ | ⟨last, outer⟩
    · rw [hsegments] at hends
      cases hends
    · rw [hsegments] at hends
      have hhead := List.head?_dropWhile_not (fun s : String => decide (s = "")) (Text.splitOn '/' path).reverse
      rw [hsegments] at hhead
      simp only [Bool.and_eq_true, decide_eq_true_iff] at hends
      exact ⟨outer.reverse, last, by simp, by simpa using hhead, hends.1, hends.2⟩
  have hsteps : Files.steps path = outer.filter Files.isStep ++ [last] := by
    rw [← filter_trimmed, htrimmed, List.filter_append]
    simp [Files.isStep_of_isName hlast]
  rw [hsteps, List.dropLast_concat] at hway
  obtain ⟨hwalk, hdirectory⟩ := walk?_directory_iff.mpr ⟨rfl, hway⟩
  rw [locate?_eq_walk? t hne, htrimmed, walk?_append, hwalk, hsteps, goal_append]
  simp only [Option.bind_some, walk?_cons, hdirectory, if_true]
  rfl

end FileTree

end ServiceStubs
