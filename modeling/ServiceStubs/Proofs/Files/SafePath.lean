import ServiceStubs.Files.Path
import ServiceStubs.Proofs.Text.Split

/-!
# Safe paths

A path is safe if it is relative and each of its segments is a name. Followed from a directory, it leads to
something below that directory.

* `SafePath` is the property;
* `splitOn_append` and `splitOn_intercalate` take paths for lists of segments;
* `parent?_eq` is the parent of a path in terms of its segments.
-/

namespace ServiceStubs

/-! ## Segments -/

namespace Text

theorem splitOn_ne_nil (sep : Char) (s : String) : splitOn sep s ≠ [] := by
  unfold splitOn
  rw [ne_eq, List.map_eq_nil_iff]
  exact splitAt_ne_nil sep s.toList

theorem splitOn_of_not_mem {sep : Char} {s : String} (h : sep ∉ s.toList) : splitOn sep s = [s] := by
  unfold splitOn
  rw [splitAt_of_not_mem h, List.map_singleton, String.ofList_toList]

theorem splitOn_append (s t : String) : splitOn '/' (s ++ "/" ++ t) = splitOn '/' s ++ splitOn '/' t := by
  have hchars : (s ++ "/" ++ t).toList = s.toList ++ '/' :: t.toList := by simp
  unfold splitOn
  rw [hchars, splitAt_append_sep, List.map_append]

theorem not_mem_of_mem_splitOn {s segment : String} (h : segment ∈ splitOn '/' s) : '/' ∉ segment.toList := by
  obtain ⟨part, hpart, rfl⟩ := List.mem_map.mp h
  rw [String.toList_ofList]
  exact not_mem_of_mem_splitAt hpart

theorem intercalate_splitOn (s : String) : "/".intercalate (splitOn '/' s) = s := by
  apply String.toList_inj.mp
  unfold splitOn
  rw [String.toList_intercalate, List.map_map]
  have hparts : (splitAt '/' s.toList).map (String.toList ∘ String.ofList) = splitAt '/' s.toList := by
    simp [Function.comp_def]
  rw [hparts]
  exact intercalate_splitAt '/' s.toList

theorem splitOn_injective : Function.Injective (splitOn '/') :=
  Function.LeftInverse.injective intercalate_splitOn

/-- The segments of a path that has been put together from segments. -/
theorem splitOn_intercalate {segments : List String} (hne : segments ≠ [])
    (h : ∀ segment ∈ segments, '/' ∉ segment.toList) : splitOn '/' ("/".intercalate segments) = segments := by
  have hchars : ("/".intercalate segments).toList = ['/'].intercalate (segments.map String.toList) :=
    String.toList_intercalate
  unfold splitOn
  rw [hchars, splitAt_intercalate (by simpa using hne) (by simpa using h), List.map_map]
  simp [Function.comp_def]

end Text

/-! ## Safe paths -/

/-- The segment is a name: it is not empty and leads neither nowhere nor up. -/
structure IsName (segment : String) : Prop where
  nonempty : segment ≠ ""
  not_here : segment ≠ "."
  not_up : segment ≠ ".."

/-- The path stays below the directory from which it is followed. -/
structure SafePath (path : String) : Prop where
  relative : ¬Files.isAbsolute path
  names : ∀ segment ∈ Text.splitOn '/' path, IsName segment

theorem isName_of_length {segment : String} (h : 3 ≤ segment.toList.length) : IsName segment := by
  refine ⟨?_, ?_, ?_⟩
  · rintro rfl
    simp at h
  · rintro rfl
    simp at h
  · rintro rfl
    simp at h

/-- The root in front of an absolute path is an empty segment. -/
theorem isAbsolute_iff {path : String} (h : path ≠ "") :
    Files.isAbsolute path ↔ (Text.splitOn '/' path).head? = some "" := by
  have hchars : path.toList ≠ [] := by simpa using h
  unfold Files.isAbsolute Text.splitOn
  rw [decide_eq_true_iff]
  rcases hpath : path.toList with _ | ⟨c, rest⟩
  · exact absurd hpath hchars
  · by_cases hc : c = '/'
    · subst hc
      rw [Text.splitAt_cons_sep]
      simp
    · obtain ⟨part, parts, -, hcons⟩ := Text.splitAt_cons_of_ne hc rest
      rw [hcons]
      simp [hc]

theorem safePath_of_names {path : String} (h : ∀ segment ∈ Text.splitOn '/' path, IsName segment) :
    SafePath path := by
  refine ⟨?_, h⟩
  by_cases hempty : path = ""
  · subst hempty
    decide
  · rw [isAbsolute_iff hempty]
    intro hhead
    exact (h "" (List.mem_of_head? hhead)).nonempty rfl

/-- A single long segment is safe. -/
theorem safePath_of_slash_not_mem {path : String} (h : '/' ∉ path.toList) (hlength : 3 ≤ path.toList.length) :
    SafePath path := by
  apply safePath_of_names
  intro segment hsegment
  rw [Text.splitOn_of_not_mem h, List.mem_singleton] at hsegment
  subst hsegment
  exact isName_of_length hlength

theorem safePath_append {name ending : String} (hname : '/' ∉ name.toList) (hending : '/' ∉ ending.toList)
    (hlength : 3 ≤ ending.toList.length) : SafePath (name ++ ending) := by
  apply safePath_of_slash_not_mem
  · rw [String.toList_append, List.mem_append, not_or]
    exact ⟨hname, hending⟩
  · rw [String.toList_append, List.length_append]
    omega

/-! ## Parents -/

/-- The last segment is a name. -/
def EndsInName (segments : List String) : Prop :=
  ∃ outer name, segments = outer ++ [name] ∧ IsName name

theorem EndsInName.append {front back : List String} (h : EndsInName front) (hback : ∀ s ∈ back, IsName s) :
    EndsInName (front ++ back) := by
  rcases List.eq_nil_or_concat back with rfl | ⟨outer, name, rfl⟩
  · simpa using h
  · exact ⟨front ++ outer, name, by simp, hback name (by simp)⟩

theorem EndsInName.path_ne {path : String} (h : EndsInName (Text.splitOn '/' path)) : path ≠ "" := by
  rintro rfl
  obtain ⟨outer, name, hsplit, hname⟩ := h
  have hempty : Text.splitOn '/' "" = [""] := rfl
  rw [hempty] at hsplit
  have hlast := congrArg List.getLast? hsplit
  rw [List.getLast?_concat] at hlast
  exact hname.nonempty (Option.some.inj hlast).symm

namespace Files

theorem isVoid_of_isName {name : String} (h : IsName name) : isVoid false name = false := by
  simp [isVoid, h.nonempty, h.not_here]

theorem dropVoid_of_isName {name : String} (h : IsName name) (outer : List String) :
    dropVoid (name :: outer) = name :: outer := by
  cases outer with
  | nil => simp [dropVoid, h.nonempty]
  | cons first rest => simp [dropVoid, isVoid_of_isName h]

/-- The parent of a path is the path without its last segment, if what remains ends in a name. -/
theorem parent?_eq {path : String} {front : List String} {name : String}
    (hsplit : Text.splitOn '/' path = front ++ [name]) (hname : IsName name) (hfront : EndsInName front) :
    parent? path = some ("/".intercalate front) := by
  obtain ⟨outer, last, rfl, hlast⟩ := hfront
  have hne : path ≠ "" := EndsInName.path_ne ⟨_, name, hsplit, hname⟩
  have hbackward : segmentsBackward path = name :: last :: outer.reverse := by
    unfold segmentsBackward
    rw [hsplit]
    simp
  -- The root of an absolute path is a segment of its own, which is not part of the parent.
  by_cases habsolute : isAbsolute path
  · have hhead := (isAbsolute_iff hne).mp habsolute
    rw [hsplit] at hhead
    cases outer with
    | nil =>
      have hroot : last = "" := by simpa using hhead
      exact absurd hroot hlast.nonempty
    | cons root outer =>
      have hroot : root = "" := by simpa using hhead
      subst hroot
      have hbody : bodyBackward path = name :: last :: outer.reverse := by
        unfold bodyBackward
        rw [if_pos habsolute, hbackward, List.reverse_cons, ← List.cons_append, ← List.cons_append,
          List.dropLast_concat, List.dropWhile_cons_of_neg (by simp [isVoid_of_isName hname])]
      unfold parent?
      rw [hbody]
      dsimp only
      rw [if_pos habsolute, List.dropWhile_cons_of_neg (by simp [isVoid_of_isName hlast])]
      simp [String.intercalate_cons_of_ne_nil]
  · have hbody : bodyBackward path = name :: last :: outer.reverse := by
      unfold bodyBackward
      rw [if_neg habsolute, hbackward, dropVoid_of_isName hname]
    unfold parent?
    rw [hbody]
    dsimp only
    rw [if_neg habsolute, dropVoid_of_isName hlast]
    simp

theorem not_endsWith_slash {directory : String} (h : EndsInName (Text.splitOn '/' directory)) :
    ¬Text.endsWith directory "/" := by
  intro hends
  obtain ⟨outer, name, hsplit, hname⟩ := h
  obtain ⟨front, hfront⟩ := List.isSuffixOf_iff_suffix.mp hends
  have hslash : directory.toList = front ++ '/' :: [] := hfront.symm
  unfold Text.splitOn at hsplit
  rw [hslash, Text.splitAt_append_sep, List.map_append] at hsplit
  have hlast := congrArg List.getLast? hsplit
  simp only [Text.splitAt, List.map_cons, List.map_nil, List.getLast?_concat, Option.some.injEq] at hlast
  exact hname.nonempty hlast.symm

/-- The segments of a file as seen from a directory that ends in a name. -/
theorem splitOn_join {directory path : String} (hdirectory : EndsInName (Text.splitOn '/' directory))
    (hpath : ¬isAbsolute path) :
    Text.splitOn '/' (join directory path) = Text.splitOn '/' directory ++ Text.splitOn '/' path := by
  have hrelative : ¬(isAbsolute path ∨ directory = "") := by
    rw [not_or]
    exact ⟨hpath, hdirectory.path_ne⟩
  unfold join
  rw [if_neg hrelative, if_neg (not_endsWith_slash hdirectory), Text.splitOn_append]

theorem mem_dropVoid {segment : String} {segments : List String} (h : segment ∈ dropVoid segments) :
    segment ∈ segments := by
  fun_induction dropVoid segments with
  | case1 => exact h
  | case2 => cases h
  | case3 first hnonempty => exact h
  | case4 first rest hrest hvoid ih => exact List.mem_cons_of_mem first (ih h)
  | case5 first rest hrest hvoid => exact h

/-- The name of a file is one segment. -/
theorem slash_not_mem_fileName? {path name : String} (h : fileName? path = some name) :
    '/' ∉ name.toList := by
  obtain ⟨hhead, -⟩ := Option.filter_eq_some_iff.mp h
  have hmem : name ∈ (Text.splitOn '/' path).reverse := by
    have hbody := List.mem_of_head? hhead
    unfold bodyBackward at hbody
    split at hbody
    · exact List.dropLast_subset _ ((List.dropWhile_sublist _).subset hbody)
    · exact mem_dropVoid hbody
  exact Text.not_mem_of_mem_splitOn (List.mem_reverse.mp hmem)

/-- The path of something in a directory ends in its name. -/
theorem join_endsInName (directory : String) {name : String} (hslash : '/' ∉ name.toList) (hname : IsName name) :
    EndsInName (Text.splitOn '/' (join directory name)) := by
  have hsingle : Text.splitOn '/' name = [name] := Text.splitOn_of_not_mem hslash
  unfold join
  split
  · exact ⟨[], name, by simpa using hsingle, hname⟩
  · split
    · rename_i hends
      obtain ⟨front, hfront⟩ := List.isSuffixOf_iff_suffix.mp hends
      have hchars : (directory ++ name).toList = front ++ '/' :: name.toList := by
        rw [String.toList_append, ← hfront]
        simp
      refine ⟨(Text.splitAt '/' front).map String.ofList, name, ?_, hname⟩
      unfold Text.splitOn
      rw [hchars, Text.splitAt_append_sep, Text.splitAt_of_not_mem hslash, List.map_append]
      simp
    · exact ⟨_, name, by rw [Text.splitOn_append, hsingle], hname⟩

/-- The path of something beside a directory ends in the name that it is given. -/
theorem sibling_endsInName {path name : String} (hslash : '/' ∉ name.toList) (hname : IsName name) :
    EndsInName (Text.splitOn '/' (sibling path name)) :=
  join_endsInName _ hslash hname

end Files

end ServiceStubs
