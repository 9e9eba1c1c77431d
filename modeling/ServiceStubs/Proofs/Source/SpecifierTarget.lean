import Mathlib.Algebra.BigOperators.Group.List.Basic
import Mathlib.Algebra.Ring.Int.Defs
import ServiceStubs.Proofs.Files.Way
import ServiceStubs.Proofs.Source.CanonicalPath

/-!
# Where specifiers lead

A specifier is followed from the directory of the file that it stands in. The path that it means there leads to
the same place, from wherever the project is, unless a climb of the specifier meets a segment of the
directory that leads nowhere: the climb then takes away this segment, and nothing of the way.

* `destination` is the place to which a path leads;
* `crossed` are the segments that the climbs of a specifier take away;
* `joinSpecifier_resolves_iff` compares the path that a specifier means with the way along the specifier;
* `joinSpecifier_misplaces` are specifiers that miss their place, or have no path.
-/

namespace ServiceStubs.Source

open FileTree (goal next)

/-! ## Places -/

/-- The place to which a path leads from a place. -/
def destination (here : TreePlace) (path : String) : TreePlace :=
  goal (if Files.isAbsolute path then [] else here) (Files.steps path)

/-- The directory of the file to which a path leads from a place. -/
def directoryFrom (here : TreePlace) (path : String) : TreePlace :=
  goal (if Files.isAbsolute path then [] else here) ((Text.splitOn '/' path).dropLast.filter Files.isStep)

/-- Segments that lead nowhere can be left out. -/
theorem goal_filter_isStep (here : TreePlace) (segments : List String) :
    goal here (segments.filter Files.isStep) = goal here segments := by
  induction segments generalizing here with
  | nil => rfl
  | cons segment rest ih =>
    have hcons : goal here (segment :: rest) = goal (next here segment) rest := rfl
    cases hstep : Files.isStep segment with
    | false =>
      rw [List.filter_cons_of_neg (by simp [hstep]), hcons, FileTree.next_of_not_isStep here hstep]
      exact ih here
    | true =>
      rw [List.filter_cons_of_pos hstep, hcons]
      exact ih (next here segment)

/-! ## Climbs -/

/-- The number of levels that segments lead up from where they begin. -/
def climbs : List String → Nat
  | [] => 0
  | segment :: rest =>
    if Files.isStep segment then
      if segment = ".." then climbs rest + 1 else climbs rest - 1
    else climbs rest

/-- The segments of a directory, the innermost first, that are taken away by the climbs of other segments. A
climb that the directory ends with stays. -/
def crossedBy (directory segments : List String) : List String :=
  (directory.takeWhile (· ≠ "..")).take (climbs segments)

/-- The segments of the directory of a file that are taken away by the climbs of a specifier. -/
def crossed (path specifier : String) : List String :=
  crossedBy (Text.splitOn '/' path).dropLast.reverse (Text.splitOn '/' specifier)

/-- The number of levels that segments lead down, less the number that they lead up. -/
def depth (segments : List String) : Int :=
  (segments.map fun s => if Files.isStep s then if s = ".." then -1 else 1 else 0).sum

theorem isStep_iff {segment : String} : Files.isStep segment ↔ ¬(segment = "" ∨ segment = ".") := by
  simp [Files.isStep]

/-- Far enough from the root, segments lead as many levels down as they say. -/
theorem length_goal {here : TreePlace} {segments : List String} (h : climbs segments ≤ here.length) :
    ((goal here segments).length : Int) = here.length + depth segments := by
  -- The bound leaves room for every climb, so that a climb takes one level away, even in the middle.
  induction segments generalizing here with
  | nil => simp [goal, depth]
  | cons segment rest ih =>
    have hcons : goal here (segment :: rest) = goal (next here segment) rest := rfl
    have hdepth : depth (segment :: rest) =
        (if Files.isStep segment then if segment = ".." then -1 else 1 else 0) + depth rest := rfl
    rw [hcons, hdepth]
    unfold climbs at h
    unfold next
    by_cases hstep : Files.isStep segment
    · rw [if_pos hstep] at h ⊢
      rw [if_neg (isStep_iff.mp hstep)]
      by_cases hup : segment = ".."
      · rw [if_pos hup] at h ⊢
        rw [if_pos hup, ih (by rw [List.length_dropLast]; omega), List.length_dropLast]
        omega
      · rw [if_neg hup] at h ⊢
        rw [if_neg hup, ih (by rw [List.length_append, List.length_singleton]; omega), List.length_append,
          List.length_singleton]
        omega
    · rw [if_neg hstep] at h ⊢
      rw [if_pos (not_not.mp fun hnot => hstep (isStep_iff.mpr hnot)), ih h]
      omega

/-! ## Following a specifier -/

/-- What the first of some segments does to a directory, and what is taken away by it and by the others. -/
theorem enter_cases (directory : List String) (segment : String) (rest : List String) :
    (¬Files.isStep segment ∧ enter directory segment = directory ∧
        crossedBy directory (segment :: rest) = crossedBy directory rest) ∨
      (segment = ".." ∧ enter directory segment = ".." :: directory ∧
        crossedBy directory (segment :: rest) = [] ∧ crossedBy (".." :: directory) rest = []) ∨
      (segment = ".." ∧ ∃ innermost outer, directory = innermost :: outer ∧ innermost ≠ ".." ∧
        enter directory segment = outer ∧
        crossedBy directory (segment :: rest) = innermost :: crossedBy outer rest) ∨
      (Files.isStep segment ∧ segment ≠ ".." ∧ enter directory segment = segment :: directory ∧
        (crossedBy (segment :: directory) rest = [] ∧ crossedBy directory (segment :: rest) = [] ∨
          crossedBy (segment :: directory) rest = segment :: crossedBy directory (segment :: rest))) := by
  unfold crossedBy
  by_cases hstep : Files.isStep segment
  · have hentered := isStep_iff.mp hstep
    right
    by_cases hup : segment = ".."
    · subst hup
      -- A climb takes a segment away, unless none is left or the innermost one is a climb itself.
      rcases directory with _ | ⟨innermost, outer⟩
      · exact .inl ⟨rfl, rfl, List.take_nil, List.take_nil⟩
      · by_cases hclimb : innermost = ".."
        · subst hclimb
          exact .inl ⟨rfl, rfl, List.take_nil, List.take_nil⟩
        · refine .inr (.inl ⟨rfl, innermost, outer, rfl, hclimb, ?_, ?_⟩)
          · unfold enter
            rw [if_neg hentered, if_pos rfl]
            exact if_neg hclimb
          · have hclimbs : climbs (".." :: rest) = climbs rest + 1 := rfl
            rw [hclimbs, List.takeWhile_cons_of_pos (by simpa using hclimb), List.take_succ_cons]
    · refine .inr (.inr ⟨hstep, hup, ?_, ?_⟩)
      · unfold enter
        rw [if_neg hentered, if_neg hup]
      · have hclimbs : climbs (segment :: rest) = climbs rest - 1 := by
          rw [climbs, if_pos hstep, if_neg hup]
        rw [hclimbs, List.takeWhile_cons_of_pos (by simpa using hup)]
        -- What has just been entered is taken away by the first climb that the others have left over.
        rcases climbs rest with _ | n
        · exact .inl ⟨rfl, rfl⟩
        · exact .inr rfl
  · have hclimbs : climbs (segment :: rest) = climbs rest := by rw [climbs, if_neg hstep]
    refine .inl ⟨hstep, ?_, by rw [hclimbs]⟩
    unfold enter
    rw [if_pos (not_not.mp fun hnot => hstep (isStep_iff.mpr hnot))]

/-- As long as only steps are taken away, the directory that is entered is where the segments lead. -/
theorem goal_foldl_enter (root : TreePlace) {directory segments : List String}
    (h : ∀ s ∈ crossedBy directory segments, Files.isStep s) :
    goal root (segments.foldl enter directory).reverse = goal (goal root directory.reverse) segments := by
  induction segments generalizing directory with
  | nil => rfl
  | cons segment rest ih =>
    have hcons : ∀ here, goal here (segment :: rest) = goal (next here segment) rest := fun _ => rfl
    have hlast : ∀ outer, goal root (segment :: outer).reverse = next (goal root outer.reverse) segment := by
      intro outer
      rw [List.reverse_cons, FileTree.goal_append]
      rfl
    rw [List.foldl_cons, hcons]
    rcases enter_cases directory segment rest with ⟨hstep, henter, hcrossed⟩ |
      ⟨rfl, henter, -, hcrossed⟩ | ⟨rfl, innermost, outer, rfl, hclimb, henter, hcrossed⟩ |
      ⟨hstep, hup, henter, hcrossed⟩
    · rw [hcrossed] at h
      rw [henter, ih h, FileTree.next_of_not_isStep _ (by simpa using hstep)]
    · rw [henter, ih (by simp [hcrossed]), hlast]
    · -- The climb undoes the step to the innermost segment.
      rw [hcrossed, List.forall_mem_cons] at h
      have hname : IsName innermost := by
        have hblank := isStep_iff.mp h.1
        rw [not_or] at hblank
        exact ⟨hblank.1, hblank.2, hclimb⟩
      have hback : next (goal root (innermost :: outer).reverse) ".." = goal root outer.reverse := by
        rw [List.reverse_cons, FileTree.goal_append, FileTree.goal_names _ (by simpa using hname)]
        unfold next
        rw [if_neg (by decide), if_pos rfl, List.dropLast_concat]
      rw [henter, ih h.2, hback]
    · have hrest : ∀ s ∈ crossedBy (segment :: directory) rest, Files.isStep s := by
        rcases hcrossed with ⟨hnil, -⟩ | hcrossed
        · simp [hnil]
        · rw [hcrossed, List.forall_mem_cons]
          exact ⟨hstep, h⟩
      rw [henter, ih hrest, hlast]

/-- Each segment that is taken away and is no step makes up for a climb. -/
theorem depth_foldl_enter (directory segments : List String) :
    depth (segments.foldl enter directory) = depth directory + depth segments +
      (crossedBy directory segments).countP fun s => !Files.isStep s := by
  induction segments generalizing directory with
  | nil => simp [depth, crossedBy, climbs]
  | cons segment rest ih =>
    have hdepth : ∀ s others, depth (s :: others) =
        (if Files.isStep s then if s = ".." then -1 else 1 else 0) + depth others := fun _ _ => rfl
    have hup : depth (".." :: rest) = -1 + depth rest := rfl
    -- One equation for each case of `enter_cases`; only a segment that is taken away can make a difference.
    rw [List.foldl_cons, ih]
    rcases enter_cases directory segment rest with ⟨hstep, henter, hcrossed⟩ |
      ⟨rfl, henter, hcrossed, hrest⟩ | ⟨rfl, innermost, outer, rfl, hclimb, henter, hcrossed⟩ |
      ⟨hstep, hname, henter, hcrossed⟩
    · rw [henter, hcrossed, hdepth, if_neg hstep]
      omega
    · have hclimb : depth (".." :: directory) = -1 + depth directory := rfl
      rw [henter, hcrossed, hrest, hup, hclimb]
      omega
    · rw [henter, hcrossed, hup, hdepth, List.countP_cons]
      cases hstep : Files.isStep innermost with
      | false => simp; omega
      | true => simp [hclimb]; omega
    · rw [henter, hdepth, hdepth, if_pos hstep, if_neg hname]
      rcases hcrossed with ⟨hrest, hcrossed⟩ | hcrossed
      · rw [hrest, hcrossed]
        omega
      · rw [hcrossed, List.countP_cons_of_neg (by simp [hstep])]
        omega

theorem depth_reverse (segments : List String) : depth segments.reverse = depth segments := by
  unfold depth
  rw [List.map_reverse, List.sum_reverse]

theorem goal_foldl_enter_iff (directory segments : List String) :
    (∀ root, goal root (segments.foldl enter directory).reverse = goal (goal root directory.reverse) segments) ↔
      ∀ s ∈ crossedBy directory segments, Files.isStep s := by
  constructor
  · intro h
    -- Seen from far down, both ways end at the same depth.
    let far := climbs (segments.foldl enter directory).reverse + climbs (directory.reverse ++ segments)
    have hroot := congrArg (fun place : TreePlace => (place.length : Int)) (h (List.replicate far "d"))
    have hfar : (List.replicate far "d").length = far := List.length_replicate
    rw [← FileTree.goal_append, length_goal (by omega), length_goal (by omega), depth_reverse,
      depth_foldl_enter] at hroot
    have happend : depth (directory.reverse ++ segments) = depth directory + depth segments := by
      rw [← depth_reverse directory]
      simp [depth]
    have hcount : (crossedBy directory segments).countP (fun s => !Files.isStep s) = 0 := by omega
    rw [List.countP_eq_zero] at hcount
    intro s hs
    simpa using hcount s hs
  · intro h root
    exact goal_foldl_enter root h

/-! ## Joined paths -/

/-- The path that the specifier means leads to the same place as following the specifier does, from wherever
the project is. -/
def Resolves (path specifier : String) : Prop :=
  ∀ root, destination root (joinSpecifier path specifier) = destination (directoryFrom root path) specifier

/-- The directory and the name that a specifier leads to, the innermost first. -/
def entered (path specifier : String) : List String :=
  (Text.splitOn '/' specifier).foldl enter (Text.splitOn '/' path).dropLast.reverse

theorem joinSpecifier_eq (path specifier : String) :
    joinSpecifier path specifier = "/".intercalate (entered path specifier).reverse :=
  rfl

theorem slash_not_mem_entered (path specifier : String) : ∀ s ∈ entered path specifier, '/' ∉ s.toList := by
  unfold entered
  have hdirectory : ∀ s ∈ (Text.splitOn '/' path).dropLast.reverse, '/' ∉ s.toList := fun s hs =>
    Text.not_mem_of_mem_splitOn (List.dropLast_subset _ (List.mem_reverse.mp hs))
  exact List.foldlRecOn (motive := fun directory => ∀ s ∈ directory, '/' ∉ s.toList) _ enter hdirectory
    fun _ h _ hsegment => enter_slash_not_mem h (Text.not_mem_of_mem_splitOn hsegment)

theorem getLast?_enter {directory : List String} (h : directory.getLast? ≠ some "") (segment : String) :
    (enter directory segment).getLast? ≠ some "" := by
  unfold enter
  split
  · exact h
  · rename_i hstay
    rw [not_or] at hstay
    -- The outermost segment changes only where there are less than two.
    rcases directory with _ | ⟨innermost, _ | ⟨second, outer⟩⟩
    · split
      · decide
      · simpa using hstay.1
    · split
      · dsimp only
        split
        · exact h
        · simp
      · exact h
    · split
      · dsimp only
        split
        · exact h
        · exact h
      · exact h

/-- No specifier leads from a relative path to an absolute one. -/
theorem not_isAbsolute_joinSpecifier {path : String} (h : ¬Files.isAbsolute path) (specifier : String) :
    ¬Files.isAbsolute (joinSpecifier path specifier) := by
  -- A path is absolute if its outermost segment is empty, and entering segments does not make it so.
  have hdirectory : (Text.splitOn '/' path).dropLast.reverse.getLast? ≠ some "" := by
    rw [List.getLast?_reverse]
    intro hhead
    rcases hsplit : Text.splitOn '/' path with _ | ⟨first, _ | ⟨second, rest⟩⟩
    · rw [hsplit] at hhead
      cases hhead
    · rw [hsplit] at hhead
      cases hhead
    · have hne : path ≠ "" := by
        rintro rfl
        cases hsplit
      rw [hsplit] at hhead
      exact h ((isAbsolute_iff hne).mpr (hsplit ▸ hhead))
  have hentered : (entered path specifier).getLast? ≠ some "" :=
    List.foldlRecOn (motive := fun directory => directory.getLast? ≠ some "") _ enter hdirectory
      fun _ h segment _ => getLast?_enter h segment
  intro habsolute
  obtain ⟨body, hbody⟩ := Files.splitOn_of_isAbsolute habsolute
  rw [joinSpecifier_eq] at hbody habsolute
  have hne : (entered path specifier).reverse ≠ [] := by
    intro hnil
    rw [hnil] at habsolute
    cases habsolute
  rw [Text.splitOn_intercalate hne (by simpa using slash_not_mem_entered path specifier)] at hbody
  rw [← List.head?_reverse, hbody] at hentered
  exact hentered rfl

theorem not_isAbsolute_of_isRelative {specifier : String} (h : isRelative specifier) :
    ¬Files.isAbsolute specifier := by
  have hdot : ∀ start : String, start.toList.head? = some '.' → Text.startsWith specifier start →
      ¬Files.isAbsolute specifier := by
    intro start hstart hstarts habsolute
    obtain ⟨rest, hrest⟩ := List.isPrefixOf_iff_prefix.mp hstarts
    rcases hchars : start.toList with _ | ⟨c, cs⟩
    · rw [hchars] at hstart
      cases hstart
    · rw [hchars] at hstart hrest
      unfold Files.isAbsolute at habsolute
      rw [← hrest, decide_eq_true_iff] at habsolute
      cases hstart
      cases habsolute
  unfold isRelative at h
  rw [Bool.or_eq_true] at h
  rcases h with h | h
  · exact hdot "./" rfl h
  · exact hdot "../" rfl h

theorem resolves_iff {path specifier : String} (hpath : ¬Files.isAbsolute path) (hspecifier : isRelative specifier) :
    Resolves path specifier ↔ ∀ s ∈ crossed path specifier, Files.isStep s := by
  unfold crossed
  rw [← goal_foldl_enter_iff]
  unfold Resolves
  refine forall_congr' fun root => ?_
  have hjoined : destination root (joinSpecifier path specifier) = goal root (entered path specifier).reverse := by
    unfold destination Files.steps
    rw [if_neg (not_isAbsolute_joinSpecifier hpath specifier), joinSpecifier_eq,
      Files.filter_splitOn_intercalate (by simpa using slash_not_mem_entered path specifier), goal_filter_isStep]
  have hfollowed : destination (directoryFrom root path) specifier =
      goal (goal root (Text.splitOn '/' path).dropLast.reverse.reverse) (Text.splitOn '/' specifier) := by
    unfold destination directoryFrom Files.steps
    rw [if_neg (not_isAbsolute_of_isRelative hspecifier), if_neg hpath, goal_filter_isStep, goal_filter_isStep,
      List.reverse_reverse]
  rw [hjoined, hfollowed]
  rfl

/-- From a path that begins with segments `.` and goes down from there, just the specifiers that climb out of
its directories lead wrong. -/
theorem crossed_isStep_iff {path specifier file : String} {count : Nat} {names : List String}
    (hsplit : Text.splitOn '/' path = List.replicate count "." ++ names ++ [file])
    (hnames : ∀ n ∈ names, IsName n) :
    (∀ s ∈ crossed path specifier, Files.isStep s) ↔
      count = 0 ∨ climbs (Text.splitOn '/' specifier) ≤ names.length := by
  have hdirectory : (Text.splitOn '/' path).dropLast.reverse = names.reverse ++ List.replicate count "." := by
    rw [hsplit, List.dropLast_concat, List.reverse_append, List.reverse_replicate]
  have hnever : ∀ s ∈ names.reverse ++ List.replicate count ".", s ≠ ".." := by
    intro s hs
    rcases List.mem_append.mp hs with hs | hs
    · exact (hnames s (List.mem_reverse.mp hs)).not_up
    · rw [List.eq_of_mem_replicate hs]
      decide
  unfold crossed crossedBy
  rw [hdirectory, List.takeWhile_eq_self_iff.mpr (by simpa using hnever)]
  constructor
  · intro h
    by_contra hnot
    rw [not_or, not_le] at hnot
    -- Behind the names the next segment to be taken away is `.`, which is no step.
    have hhere : "." ∈ (names.reverse ++ List.replicate count ".").take (climbs (Text.splitOn '/' specifier)) := by
      rw [List.mem_take_iff_getElem]
      refine ⟨names.length, by simp; omega, ?_⟩
      rw [List.getElem_append_right (by simp)]
      exact List.getElem_replicate ..
    exact absurd (h "." hhere) (by decide)
  · intro h s hs
    refine Files.isStep_of_isName (hnames s (List.mem_reverse.mp ?_))
    rcases h with rfl | h
    · simpa using List.mem_of_mem_take hs
    · rw [List.take_append_of_le_length (by simpa using h)] at hs
      exact List.mem_of_mem_take hs

/-! ## Normalised paths -/

theorem Normalised.forall_isStep {path : String} (h : Normalised path) :
    ∀ s ∈ Text.splitOn '/' path, Files.isStep s := by
  obtain ⟨count, names, hsplit, hnames⟩ := h
  rw [hsplit]
  intro s hs
  rcases List.mem_append.mp hs with hs | hs
  · rw [List.eq_of_mem_replicate hs]
    rfl
  · exact Files.isStep_of_isName (hnames s hs)

theorem Normalised.ne_empty {path : String} (h : Normalised path) : path ≠ "" := by
  rintro rfl
  exact absurd (h.forall_isStep "" List.mem_cons_self) (by decide)

theorem Normalised.not_isAbsolute {path : String} (h : Normalised path) : ¬Files.isAbsolute path := by
  intro habsolute
  obtain ⟨body, hbody⟩ := Files.splitOn_of_isAbsolute habsolute
  exact absurd (h.forall_isStep "" (hbody ▸ List.mem_cons_self)) (by decide)

/-- A canonical path is absolute, or normalised, or empty. -/
theorem normalised_of_canonical {path : String} (h : Canonical path) (hne : path ≠ "")
    (hrelative : ¬Files.isAbsolute path) : Normalised path := by
  have hsettled : ∀ segments : List String, Settled segments → segments.getLast? ≠ some "" →
      ∃ count names, segments.reverse = List.replicate count ".." ++ names ∧ ∀ n ∈ names, IsName n := by
    intro segments hsettled
    induction hsettled with
    | climbs count => exact fun _ => ⟨count, [], by simp⟩
    | root => exact fun hlast => absurd rfl hlast
    | @name segment outer hname houter ih =>
      intro hlast
      have houterLast : outer.getLast? ≠ some "" := by
        rcases outer with _ | ⟨second, outer⟩
        · simp
        · exact hlast
      obtain ⟨count, names, hreverse, hnames⟩ := ih houterLast
      refine ⟨count, names ++ [segment], by rw [List.reverse_cons, hreverse, List.append_assoc], ?_⟩
      rw [List.forall_mem_append]
      exact ⟨hnames, List.forall_mem_singleton.mpr hname⟩
  rw [isAbsolute_iff hne] at hrelative
  obtain ⟨count, names, hreverse, hnames⟩ := hsettled _ h (by rwa [List.getLast?_reverse])
  exact ⟨count, names, by rwa [List.reverse_reverse] at hreverse, hnames⟩

/-- The files that a path can name have paths, and relative ones if the path is so. -/
theorem relative_of_mem_candidates {path candidate : String} (hne : path ≠ "") (hrelative : ¬Files.isAbsolute path)
    (h : candidate ∈ candidates path) : candidate ≠ "" ∧ ¬Files.isAbsolute candidate := by
  -- Whether a path is absolute shows in its first character, which an ending does not change.
  have happend : ∀ ending : String, path ++ ending ≠ "" ∧ ¬Files.isAbsolute (path ++ ending) := by
    intro ending
    rcases hchars : path.toList with _ | ⟨c, cs⟩
    · exact absurd (String.toList_eq_nil_iff.mp hchars) hne
    · refine ⟨by simp [hne], ?_⟩
      unfold Files.isAbsolute at hrelative ⊢
      rwa [String.toList_append, hchars, List.cons_append, List.head?_cons, ← List.head?_cons, ← hchars]
  unfold candidates at h
  split at h
  · split at h
    · rename_i stem hstem
      rcases List.mem_cons.mp h with rfl | h
      · exact ⟨hne, hrelative⟩
      · rw [List.mem_singleton] at h
        subst h
        refine ⟨by simp, ?_⟩
        rw [Text.eq_append_of_stripEnd? hstem] at hrelative
        unfold Files.isAbsolute at hrelative ⊢
        rw [String.toList_append] at hrelative ⊢
        cases hchars : stem.toList with
        | nil => decide
        | cons c cs => rwa [hchars] at hrelative
    · rw [List.mem_singleton] at h
      subst h
      exact ⟨hne, hrelative⟩
  · rcases List.mem_append.mp h with h | h
    · obtain ⟨extension, -, rfl⟩ := List.mem_map.mp h
      exact happend extension
    · obtain ⟨extension, -, rfl⟩ := List.mem_map.mp h
      rw [String.append_assoc]
      exact happend _

theorem goal_replicate_up (length count : Nat) :
    goal (List.replicate length "") (List.replicate count "..") = List.replicate (length - count) "" := by
  induction count generalizing length with
  | zero => rfl
  | succ count ih =>
    have hnext : next (List.replicate length "") ".." = List.replicate (length - 1) "" := by
      unfold next
      rw [if_neg (by decide), if_pos rfl, List.dropLast_replicate]
    have hcons : goal (List.replicate length "") (List.replicate (count + 1) "..") =
        goal (next (List.replicate length "") "..") (List.replicate count "..") := rfl
    rw [hcons, hnext, ih, Nat.sub_sub, Nat.add_comm 1 count]

/-- Climbs and the names after them are told by where they lead. -/
theorem eq_of_goal_eq {count count' : Nat} {names names' : List String} (hnames : ∀ n ∈ names, IsName n)
    (hnames' : ∀ n ∈ names', IsName n)
    (h : ∀ root, goal root (List.replicate count ".." ++ names) = goal root (List.replicate count' ".." ++ names')) :
    count = count' ∧ names = names' := by
  -- Far from the root, what is left of the way there counts the climbs.
  have hfar := h (List.replicate (count + count') "")
  rw [FileTree.goal_append, FileTree.goal_append, goal_replicate_up, goal_replicate_up, FileTree.goal_names _ hnames,
    FileTree.goal_names _ hnames'] at hfar
  have hcount : ∀ (n : Nat) (others : List String), (∀ s ∈ others, IsName s) →
      (List.replicate n "" ++ others).count "" = n := by
    intro n others hothers
    have hnone : others.count "" = 0 := List.count_eq_zero.mpr fun hmem => (hothers "" hmem).nonempty rfl
    rw [List.count_append, List.count_replicate_self, hnone, Nat.add_zero]
  have hlength := congrArg (List.count "") hfar
  rw [hcount _ _ hnames, hcount _ _ hnames'] at hlength
  obtain rfl : count = count' := by omega
  exact ⟨rfl, List.append_cancel_left hfar⟩

/-- The path is normalised, or that of the directory from which paths are followed. -/
def Addresses (path : String) : Prop :=
  path = "" ∨ Normalised path

theorem Addresses.not_isAbsolute {path : String} (h : Addresses path) : ¬Files.isAbsolute path := by
  rcases h with rfl | h
  · decide
  · exact h.not_isAbsolute

theorem Addresses.steps {path : String} (h : Addresses path) :
    path = "/".intercalate (Files.steps path) ∧
      ∃ count names, Files.steps path = List.replicate count ".." ++ names ∧ ∀ n ∈ names, IsName n := by
  rcases h with rfl | h
  · exact ⟨rfl, 0, [], rfl, by simp⟩
  · have hsteps : Files.steps path = Text.splitOn '/' path := List.filter_eq_self.mpr h.forall_isStep
    rw [hsteps]
    exact ⟨(Text.intercalate_splitOn path).symm, h⟩

/-- No place has two such paths. -/
theorem Addresses.eq_of_destination {path path' : String} (h : Addresses path) (h' : Addresses path')
    (hsame : ∀ root, destination root path = destination root path') : path = path' := by
  obtain ⟨hpath, count, names, hsteps, hnames⟩ := h.steps
  obtain ⟨hpath', count', names', hsteps', hnames'⟩ := h'.steps
  have hgoal : ∀ root, goal root (List.replicate count ".." ++ names) =
      goal root (List.replicate count' ".." ++ names') := by
    intro root
    have hroot := hsame root
    unfold destination at hroot
    rwa [if_neg h.not_isAbsolute, if_neg h'.not_isAbsolute, hsteps, hsteps'] at hroot
  obtain ⟨rfl, rfl⟩ := eq_of_goal_eq hnames hnames' hgoal
  rw [hpath, hpath', hsteps, hsteps']

theorem Normalised.addresses_joinSpecifier {path : String} (h : Normalised path) (specifier : String) :
    Addresses (joinSpecifier path specifier) := by
  by_cases hne : joinSpecifier path specifier = ""
  · exact .inl hne
  · exact .inr (normalised_of_canonical (canonical_joinSpecifier h.canonical specifier) hne
      (not_isAbsolute_joinSpecifier h.not_isAbsolute specifier))

theorem Normalised.resolves {path specifier : String} (h : Normalised path) (hspecifier : isRelative specifier) :
    Resolves path specifier := by
  rw [resolves_iff h.not_isAbsolute hspecifier]
  intro s hs
  have hmem : s ∈ (Text.splitOn '/' path).dropLast.reverse :=
    (List.takeWhile_sublist _).subset (List.mem_of_mem_take hs)
  exact h.forall_isStep s (List.dropLast_subset _ (List.mem_reverse.mp hmem))

/-- The path that a specifier means leads to the place that the specifier leads to, unless a climb takes away a
segment that leads nowhere. From a normalised path no such segment is met. The specifier then means a normalised
path, unless it leads back to where the project is, and there is one path for each place. -/
theorem joinSpecifier_resolves_iff {path specifier : String} (hpath : ¬Files.isAbsolute path)
    (hspecifier : isRelative specifier) :
    (Resolves path specifier ↔ ∀ s ∈ crossed path specifier, Files.isStep s) ∧
      (∀ count names file, Text.splitOn '/' path = List.replicate count "." ++ names ++ [file] → 0 < count →
        (∀ n ∈ names, IsName n) →
        (Resolves path specifier ↔ climbs (Text.splitOn '/' specifier) ≤ names.length)) ∧
      (Normalised path →
        Resolves path specifier ∧
        (joinSpecifier path specifier ≠ "" → Normalised (joinSpecifier path specifier) ∧
          ∀ candidate ∈ candidates (joinSpecifier path specifier), Normalised candidate) ∧
        (joinSpecifier path specifier = "" ↔ ∀ root, destination (directoryFrom root path) specifier = root) ∧
        ∀ path' specifier', Normalised path' → isRelative specifier' →
          (joinSpecifier path specifier = joinSpecifier path' specifier' ↔
            ∀ root, destination (directoryFrom root path) specifier =
              destination (directoryFrom root path') specifier')) := by
  refine ⟨resolves_iff hpath hspecifier, ?_, ?_⟩
  · intro count names file hsplit hcount hnames
    rw [resolves_iff hpath hspecifier, crossed_isStep_iff hsplit hnames]
    exact or_iff_right (by omega)
  · intro h
    have hresolves := h.resolves hspecifier
    have haddresses := h.addresses_joinSpecifier specifier
    refine ⟨hresolves, ?_, ?_, ?_⟩
    · intro hne
      -- What is joined either is empty or normalised again.
      have hjoined : Normalised (joinSpecifier path specifier) := haddresses.resolve_left hne
      refine ⟨hjoined, fun candidate hcandidate => ?_⟩
      obtain ⟨hcandidateNe, hrelative⟩ := relative_of_mem_candidates hne hjoined.not_isAbsolute hcandidate
      exact normalised_of_canonical (canonical_of_mem_candidates hjoined.canonical hcandidate) hcandidateNe hrelative
    · constructor
      · intro hempty root
        rw [← hresolves root, hempty]
        rfl
      · intro hroot
        refine haddresses.eq_of_destination (.inl rfl) fun root => ?_
        rw [hresolves root, hroot root]
        rfl
    · intro path' specifier' h' hspecifier'
      have hresolves' := h'.resolves hspecifier'
      constructor
      · intro hsame root
        rw [← hresolves root, ← hresolves' root, hsame]
      · intro hsame
        refine haddresses.eq_of_destination (h'.addresses_joinSpecifier specifier') fun root => ?_
        rw [hresolves root, hresolves' root, hsame root]

/-- A file below the project that imports its neighbour. -/
theorem joinSpecifier_resolves_iff_neighbour :
    ¬Files.isAbsolute "a/b.ts" ∧ isRelative "./c" ∧ Normalised "a/b.ts" ∧
      Resolves "a/b.ts" "./c" ∧ Normalised (joinSpecifier "a/b.ts" "./c") := by
  have hpath : ¬Files.isAbsolute "a/b.ts" := by decide
  have hspecifier : isRelative "./c" := by decide
  have hnormalised : Normalised "a/b.ts" := ⟨0, ["a", "b.ts"], by decide, by
    rw [List.forall_mem_cons, List.forall_mem_singleton]
    exact ⟨⟨by decide, by decide, by decide⟩, isName_of_length (by decide)⟩⟩
  obtain ⟨hresolves, hjoined, -⟩ := (joinSpecifier_resolves_iff hpath hspecifier).2.2 hnormalised
  exact ⟨hpath, hspecifier, hnormalised, hresolves, (hjoined (by decide)).1⟩

/-- A segment `.` in front of a file is climbed out of as if it was a name, and a specifier that leads back to
where the project is has no path. -/
theorem joinSpecifier_misplaces :
    (¬Files.isAbsolute "./s.ts" ∧ isRelative "../m" ∧ joinSpecifier "./s.ts" "../m" = "m" ∧
        destination (directoryFrom ["p"] "./s.ts") "../m" = ["m"] ∧ destination ["p"] "m" = ["p", "m"] ∧
        ¬Resolves "./s.ts" "../m") ∧
      (Normalised "s.ts" ∧ isRelative "./" ∧ joinSpecifier "s.ts" "./" = "" ∧
        ¬Normalised (joinSpecifier "s.ts" "./") ∧
        candidates (joinSpecifier "s.ts" "./") =
          [".ts", ".mts", ".d.ts", ".js", "/index.ts", "/index.mts", "/index.d.ts", "/index.js"]) := by
  have hclimbed : joinSpecifier "./s.ts" "../m" = "m" := by decide
  have hback : joinSpecifier "s.ts" "./" = "" := by decide
  have hplace : destination (directoryFrom ["p"] "./s.ts") "../m" = ["m"] := by decide
  refine ⟨⟨by decide, by decide, hclimbed, hplace, by decide, ?_⟩, ?_, by decide, hback, ?_, ?_⟩
  · intro h
    have hroot := h ["p"]
    rw [hclimbed, hplace] at hroot
    exact absurd hroot (by decide)
  · exact normalised_of_length (by decide) (by decide)
  · rw [hback]
    exact fun h => h.ne_empty rfl
  · rw [hback]
    decide

end ServiceStubs.Source
