import Mathlib.Data.List.Nodup
import ServiceStubs.Proofs.Files.Grounded

/-!
# Orderly trees

What a listing of places must be like to be one of a file system: no place is listed twice, every place is in a
directory, and it is reached by names.

* `FileTree.Orderly` is the property, and `Orderly.put_file` keeps it where one file is written over another;
* `mem_namesIn_iff` says which names a directory has, and `Orderly.nodup_namesIn` that it has none twice;
* `DirectoryAt.sited` says what the path of something in a directory names.
-/

namespace ServiceStubs

namespace FileTree

/-! ## Well-formed trees -/

/-- A tree of directories: whatever is there is in a directory, no place is listed twice, and the ways to places
are made of names. -/
structure Orderly (t : FileTree) : Prop where
  grounded : t.Grounded
  distinct : (t.entries.map (·.1)).Nodup
  named : ∀ place ∈ t.entries.map (·.1), ∀ name ∈ place, IsName name ∧ '/' ∉ name.toList

variable {t t' : FileTree} {place : TreePlace} {name directory : String}

/-! ## Names in a directory -/

theorem entry?_isSome_iff (hne : place ≠ []) : (t.entry? place).isSome ↔ place ∈ t.entries.map (·.1) := by
  unfold entry?
  rw [if_neg hne, Option.isSome_iff_ne_none, ne_eq, List.lookup_eq_none_iff, List.mem_map]
  simp only [bne_iff_ne, not_forall, not_not]
  constructor
  · rintro ⟨e, he, heq⟩
    exact ⟨e, he, heq.symm⟩
  · rintro ⟨e, he, heq⟩
    exact ⟨e, he, heq.symm⟩

/-- The name of a place in a directory, if it is directly in it. -/
def nameIn? (place other : TreePlace) : Option String :=
  match other.getLast? with
  | some name => if other.dropLast = place then some name else none
  | none => none

theorem nameIn?_eq_some_iff {other : TreePlace} : nameIn? place other = some name ↔ other = place ++ [name] := by
  unfold nameIn?
  constructor
  · intro h
    split at h
    · rename_i last hlast
      obtain ⟨outer, rfl⟩ := List.getLast?_eq_some_iff.mp hlast
      split at h
      · rename_i hplace
        cases h
        rw [← hplace, List.dropLast_concat]
      · cases h
    · cases h
  · rintro rfl
    simp

theorem namesIn_eq_filterMap (t : FileTree) (place : TreePlace) :
    t.namesIn place = (t.entries.map (·.1)).filterMap (nameIn? place) := by
  rw [List.filterMap_map]
  rfl

theorem mem_namesIn_iff : name ∈ t.namesIn place ↔ (t.entry? (place ++ [name])).isSome := by
  rw [entry?_isSome_iff (by simp), namesIn_eq_filterMap, List.mem_filterMap]
  simp only [nameIn?_eq_some_iff, exists_eq_right]

theorem Orderly.nodup_namesIn (h : t.Orderly) (place : TreePlace) : (t.namesIn place).Nodup := by
  rw [namesIn_eq_filterMap]
  refine h.distinct.filterMap ?_
  intro q q' name hq hq'
  rw [nameIn?_eq_some_iff.mp hq, nameIn?_eq_some_iff.mp hq']

/-- What is in a directory has a name. -/
theorem Orderly.name_of_isSome (h : t.Orderly) (hsome : (t.entry? (place ++ [name])).isSome) :
    IsName name ∧ '/' ∉ name.toList :=
  h.named _ ((entry?_isSome_iff (by simp)).mp hsome) name (by simp)

/-! ## Files in directories -/

theorem isDirectory_iff_directory : t.isDirectory place ↔ t.entry? place = some .directory :=
  decide_eq_true_iff

/-- Nothing is below a place where no directory is. -/
theorem Grounded.free_below (h : t.Grounded) (hnot : ¬t.isDirectory place) {s : TreePlace} (hs : s ≠ []) :
    t.entry? (place ++ s) = none := by
  obtain ⟨name, rest, rfl⟩ := List.exists_cons_of_ne_nil hs
  have hfree : t.entry? (place ++ [name]) = none := by
    by_contra hsome
    exact hnot (h place name (Option.isSome_iff_ne_none.mpr hsome))
  have hbelow := h.free hfree rest
  rwa [List.append_assoc] at hbelow

/-- Whatever is further below is below something in the directory. -/
theorem Grounded.isSome_of_below (h : t.Grounded) {rest : TreePlace}
    (hsome : (t.entry? (place ++ name :: rest)).isSome) : (t.entry? (place ++ [name])).isSome := by
  by_contra hnone
  have hfree := h.free (Option.not_isSome_iff_eq_none.mp hnone) rest
  rw [List.append_assoc, List.singleton_append] at hfree
  rw [hfree] at hsome
  cases hsome

/-- Another file can take the place of a file. -/
theorem Orderly.put_file (h : t.Orderly) {content : Content} (hfile : t.entry? place = some (.file content))
    (content' : Content) : (t.put place (.file content')).Orderly := by
  have hne : place ≠ [] := by
    rintro rfl
    cases hfile
  have hmem : place ∈ t.entries.map (·.1) := (entry?_isSome_iff hne).mp (by simp [hfile])
  have hplaces : (t.put place (.file content')).entries.map (·.1) =
      (t.entries.map (·.1)).filter (fun q => q ≠ place) ++ [place] := by
    unfold put
    rw [List.map_append, List.filter_map]
    rfl
  refine ⟨?_, ?_, ?_⟩
  · -- The directory of the file is there, since the file has been in it.
    obtain ⟨outer, name, rfl⟩ := (List.eq_nil_or_concat place).resolve_left hne
    rw [List.concat_eq_append] at hfile ⊢
    refine h.grounded.put _ ?_ (by simp [isDirectory, hfile])
    rw [List.dropLast_concat]
    exact h.grounded outer name (by simp [hfile])
  · rw [hplaces, List.nodup_append]
    refine ⟨h.distinct.filter _, List.pairwise_singleton _ _, ?_⟩
    intro q hq q' hq'
    rw [List.mem_singleton.mp hq']
    simpa using (List.mem_filter.mp hq).2
  · intro q hq
    rw [hplaces, List.mem_append, List.mem_filter, List.mem_singleton] at hq
    rcases hq with ⟨hq, -⟩ | rfl
    · exact h.named q hq
    · exact h.named q hmem

/-- The path of something in a directory names its place. -/
theorem DirectoryAt.sited (h : t.DirectoryAt directory place) (hname : IsName name) (hslash : '/' ∉ name.toList) :
    t.Sited (Files.join directory name) (place ++ [name]) := by
  have hne : directory ≠ "" := by
    rintro rfl
    cases h.located
  obtain ⟨hplace, hway⟩ := (directoryAt_iff hne).mp h
  have hsingle : Files.steps name = [name] := by
    unfold Files.steps
    rw [Text.splitOn_of_not_mem hslash, List.filter_cons_of_pos (Files.isStep_of_isName hname), List.filter_nil]
  have hrelative : ¬Files.isAbsolute name := by
    unfold Files.isAbsolute
    rw [decide_eq_true_eq]
    exact fun hhead => hslash (List.mem_of_head? hhead)
  obtain ⟨hsteps, habsolute⟩ := Files.steps_join directory hrelative
  have horigin : t.origin (Files.join directory name) = t.origin directory := origin_congr rfl habsolute
  refine ⟨Files.join_endsInName directory hslash hname, ?_, ?_⟩
  · have hnames : ∀ s ∈ [name], IsName s := by simpa using hname
    rw [horigin, hsteps, hsingle, goal_append, goal_names _ hnames, ← hplace]
  · unfold approach
    rw [horigin, hsteps, hsingle, List.dropLast_concat]
    exact hway

/-- The text that is read at a path is that of a file. -/
theorem Sited.readText?_eq_some_iff {path text : String} (h : t.Sited path place) :
    t.readText? path = some text ↔ t.entry? place = some (.file (.text text)) := by
  unfold readText?
  rw [h.find?_eq]
  rcases t.entry? place with _ | entry
  · simp
  · match entry with
    | .directory => simp
    | .file (.binary bytes) => simp
    | .file (.text content) => simp

/-- A file can be written where no directory is. -/
theorem Sited.writeText?_eq {path : String} (h : t.Sited path place) (hnot : ¬t.isDirectory place) (text : String) :
    t.writeText? path text = some (t.put place (.file (.text text))) := by
  unfold writeText? writeContent?
  rw [h.locate?_eq]
  simp [not_demandsDirectory h.name, hnot]

end FileTree

end ServiceStubs
