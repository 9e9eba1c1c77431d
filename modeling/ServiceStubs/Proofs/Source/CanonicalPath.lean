import Mathlib.Data.List.Basic
import ServiceStubs.Proofs.Files.SafePath
import ServiceStubs.Source.ModulePath

/-!
# Canonical paths

A path is canonical if nothing in it leads nowhere and it climbs at its beginning only. Imports lead from
files with canonical paths to such files again, so that no file is found under two paths.

* `Settled` is the property of a list of segments, and `Normalised` the case of a relative path;
* `enter_settled` says that each segment of a specifier keeps it;
* `canonical_of_mem_candidates` says that an import leads to canonical paths only.
-/

namespace ServiceStubs.Source

/-! ## Segments -/

/-- Segments from the innermost to the outermost one: names, and then either climbs only or the root. -/
inductive Settled : List String → Prop where
  | climbs (count : Nat) : Settled (List.replicate count "..")
  | root : Settled [""]
  | name {segment : String} {outer : List String} (hname : IsName segment) (h : Settled outer) :
      Settled (segment :: outer)

/-- The path has no empty segment but one for the root, no segment `.`, and climbs at its beginning only. -/
def Canonical (path : String) : Prop :=
  Settled (Text.splitOn '/' path).reverse

/-- The path is relative, without a segment that is empty or `.`, and climbs at its beginning only. -/
def Normalised (path : String) : Prop :=
  ∃ count names, Text.splitOn '/' path = List.replicate count ".." ++ names ∧ ∀ n ∈ names, IsName n

/-- A name that is too long to be a climb is a normalised path. -/
theorem normalised_of_length {name : String} (hslash : '/' ∉ name.toList) (hlength : 3 ≤ name.toList.length) :
    Normalised name :=
  ⟨0, [name], Text.splitOn_of_not_mem hslash, List.forall_mem_singleton.mpr (isName_of_length hlength)⟩

theorem Normalised.canonical {path : String} (h : Normalised path) : Canonical path := by
  obtain ⟨count, names, hsplit, hnames⟩ := h
  have hsettled : ∀ inner : List String, (∀ n ∈ inner, IsName n) →
      Settled (inner ++ List.replicate count "..") := by
    intro inner
    induction inner with
    | nil => exact fun _ => .climbs count
    | cons n rest ih =>
      intro h
      rw [List.forall_mem_cons] at h
      exact .name h.1 (ih h.2)
  unfold Canonical
  rw [hsplit, List.reverse_append, List.reverse_replicate]
  exact hsettled names.reverse fun n hn => hnames n (List.mem_reverse.mp hn)

theorem Settled.tail {segments : List String} (h : Settled segments) : Settled segments.tail := by
  cases h with
  | climbs count =>
    rw [List.tail_replicate]
    exact .climbs (count - 1)
  | root => exact .climbs 0
  | name hname h => exact h

/-- Following a segment keeps a directory settled. -/
theorem enter_settled {directory : List String} (h : Settled directory) (segment : String) :
    Settled (enter directory segment) := by
  unfold enter
  split
  · exact h
  · rename_i hstay
    rw [not_or] at hstay
    split
    · -- A climb leaves the innermost name, and is kept where there is none.
      cases h with
      | climbs count =>
        cases count with
        | zero => exact .climbs 1
        | succ count => exact .climbs (count + 2)
      | root => exact .climbs 0
      | name hname houter =>
        dsimp only
        rw [if_neg hname.not_up]
        exact houter
    · rename_i hup
      exact .name ⟨hstay.1, hstay.2, hup⟩ h

theorem enter_slash_not_mem {directory : List String} (h : ∀ s ∈ directory, '/' ∉ s.toList) {segment : String}
    (hsegment : '/' ∉ segment.toList) : ∀ s ∈ enter directory segment, '/' ∉ s.toList := by
  have hup : '/' ∉ "..".toList := by decide
  unfold enter
  split
  · exact h
  · split
    · cases directory with
      | nil => exact List.forall_mem_singleton.mpr hup
      | cons innermost outer =>
        dsimp only
        split
        · exact List.forall_mem_cons.mpr ⟨hup, h⟩
        · exact fun s hs => h s (List.mem_cons_of_mem innermost hs)
    · exact List.forall_mem_cons.mpr ⟨hsegment, h⟩

/-! ## Specifiers -/

/-- A path that is put together from settled segments is canonical. -/
theorem canonical_intercalate {directory : List String} (h : Settled directory)
    (hslash : ∀ s ∈ directory, '/' ∉ s.toList) : Canonical ("/".intercalate directory.reverse) := by
  unfold Canonical
  by_cases hnil : directory = []
  · -- The empty path has one segment, which is empty.
    subst hnil
    exact .root
  · rw [Text.splitOn_intercalate (by simpa using hnil) (by simpa using hslash), List.reverse_reverse]
    exact h

theorem canonical_joinSpecifier {path : String} (h : Canonical path) (specifier : String) :
    Canonical (joinSpecifier path specifier) := by
  have hfold : ∀ (segments directory : List String), (∀ s ∈ segments, '/' ∉ s.toList) → Settled directory →
      (∀ s ∈ directory, '/' ∉ s.toList) → Settled (segments.foldl enter directory) ∧
        ∀ s ∈ segments.foldl enter directory, '/' ∉ s.toList := by
    intro segments
    induction segments with
    | nil => exact fun directory _ hsettled hslash => ⟨hsettled, hslash⟩
    | cons segment rest ih =>
      intro directory hsegments hsettled hslash
      rw [List.forall_mem_cons] at hsegments
      exact ih _ hsegments.2 (enter_settled hsettled segment) (enter_slash_not_mem hslash hsegments.1)
  have hdirectory : Settled (Text.splitOn '/' path).dropLast.reverse := by
    rw [← List.tail_reverse]
    exact Settled.tail h
  have hslash : ∀ s ∈ (Text.splitOn '/' path).dropLast.reverse, '/' ∉ s.toList := by
    intro s hs
    exact Text.not_mem_of_mem_splitOn (List.dropLast_subset _ (List.mem_reverse.mp hs))
  obtain ⟨hsettled, hslash'⟩ := hfold (Text.splitOn '/' specifier) _
    (fun s hs => Text.not_mem_of_mem_splitOn hs) hdirectory hslash
  exact canonical_intercalate hsettled hslash'

/-! ## Files of a module -/

/-- An ending without a separator goes to the innermost segment. -/
theorem reverse_splitOn_append (path : String) {ending : String} (h : '/' ∉ ending.toList) :
    ∃ last, (Text.splitOn '/' (path ++ ending)).reverse =
      (last ++ ending) :: (Text.splitOn '/' path).reverse.tail := by
  refine ⟨String.ofList ((Text.splitAt '/' path.toList).getLastD []), ?_⟩
  unfold Text.splitOn
  rw [String.toList_append, Text.splitAt_append_of_not_mem h, List.map_append, List.map_singleton,
    List.reverse_append, List.reverse_singleton, List.tail_reverse, ← List.map_dropLast, List.singleton_append,
    String.ofList_append, String.ofList_toList]

/-- The innermost segment can end with any extension. -/
theorem canonical_append {path : String} (h : Settled (Text.splitOn '/' path).reverse.tail) {ending : String}
    (hslash : '/' ∉ ending.toList) (hlength : 3 ≤ ending.toList.length) : Canonical (path ++ ending) := by
  obtain ⟨last, hsplit⟩ := reverse_splitOn_append path hslash
  have hname : IsName (last ++ ending) := by
    apply isName_of_length
    rw [String.toList_append, List.length_append]
    omega
  unfold Canonical
  rw [hsplit]
  exact .name hname h

/-- One extension takes the place of another. -/
theorem canonical_replace {stem ending ending' : String} (h : Canonical (stem ++ ending))
    (hslash : '/' ∉ ending.toList) (hslash' : '/' ∉ ending'.toList) (hlength : 3 ≤ ending'.toList.length) :
    Canonical (stem ++ ending') := by
  -- Both endings belong to the innermost segment, so that the outer ones are the same.
  obtain ⟨last, hsplit⟩ := reverse_splitOn_append stem hslash
  unfold Canonical at h
  rw [hsplit] at h
  exact canonical_append h.tail hslash' hlength

theorem splitOn_index (path : String) :
    Text.splitOn '/' (path ++ "/index") = Text.splitOn '/' path ++ ["index"] := by
  have hslash : path ++ "/index" = path ++ "/" ++ "index" := by
    rw [String.append_assoc]
    rfl
  rw [hslash, Text.splitOn_append]
  rfl

/-- The files that a canonical path can name have canonical paths. -/
theorem canonical_of_mem_candidates {path candidate : String} (h : Canonical path)
    (hcandidate : candidate ∈ candidates path) : Canonical candidate := by
  have hextension : ∀ extension ∈ impliedExtensions,
      '/' ∉ extension.toList ∧ 3 ≤ extension.toList.length := by
    decide
  unfold candidates at hcandidate
  split at hcandidate
  · split at hcandidate
    · rename_i stem hstem
      rw [Text.eq_append_of_stripEnd? hstem] at h hcandidate
      rcases List.mem_cons.mp hcandidate with rfl | hcandidate
      · exact h
      · rw [List.mem_singleton] at hcandidate
        subst hcandidate
        exact canonical_replace h (by decide) (by decide) (by decide)
    · rw [List.mem_singleton] at hcandidate
      exact hcandidate ▸ h
  · rcases List.mem_append.mp hcandidate with hcandidate | hcandidate
    · obtain ⟨extension, hmem, rfl⟩ := List.mem_map.mp hcandidate
      obtain ⟨hslash, hlength⟩ := hextension extension hmem
      exact canonical_append h.tail hslash hlength
    · -- The name of the index file is a segment of its own, and all of the path lies outside of it.
      obtain ⟨extension, hmem, rfl⟩ := List.mem_map.mp hcandidate
      obtain ⟨hslash, hlength⟩ := hextension extension hmem
      refine canonical_append ?_ hslash hlength
      rw [splitOn_index, List.reverse_append]
      exact h

end ServiceStubs.Source
