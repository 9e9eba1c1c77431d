import Mathlib.Data.List.Nodup
import Mathlib.Data.String.Basic
import ServiceStubs.Proofs.Target.OutputPaths

/-!
# Companions of files

Some targets need files that the paths of the others call for. They belong to no class, and none of them has
the path of another file.

* `sortedTable_increasing` and `mem_keys_sortedTable` say that a sorted table has every key once;
* `nodup_companions` says that companions bring no path twice.
-/

namespace ServiceStubs

/-! ## Sorted tables -/

section

variable {α : Type}

/-- The keys of a table increase. -/
def Increasing (table : List (String × α)) : Prop :=
  table.Pairwise fun e e' => e.1 < e'.1

theorem insertSorted_increasing {table : List (String × α)} (h : Increasing table) (key : String) (value : α) :
    Increasing (insertSorted key value table) := by
  induction table with
  | nil => exact List.pairwise_singleton _ _
  | cons first rest ih =>
    obtain ⟨k, v⟩ := first
    obtain ⟨hfirst, hrest⟩ := List.pairwise_cons.mp h
    unfold insertSorted
    split
    · rename_i heq
      subst heq
      exact List.pairwise_cons.mpr ⟨hfirst, hrest⟩
    · rename_i hne
      split
      · rename_i hlt
        refine List.pairwise_cons.mpr ⟨?_, h⟩
        intro e he
        rcases List.mem_cons.mp he with rfl | he
        · exact hlt
        · exact lt_trans hlt (hfirst e he)
      · -- The key belongs behind the first one.
        rename_i hnot
        refine List.pairwise_cons.mpr ⟨?_, ih hrest⟩
        intro e he
        rcases mem_insertSorted he with rfl | he
        · exact lt_of_le_of_ne (not_lt.mp hnot) (Ne.symm hne)
        · exact hfirst e he

theorem sortedTable_increasing (entries : List (String × α)) : Increasing (sortedTable entries) := by
  have hfold : ∀ (entries table : List (String × α)), Increasing table →
      Increasing (entries.foldl (fun table e => insertSorted e.1 e.2 table) table) := by
    intro entries
    induction entries with
    | nil => exact fun table h => h
    | cons e rest ih => exact fun table h => ih _ (insertSorted_increasing h e.1 e.2)
  exact hfold entries [] List.Pairwise.nil

theorem mem_keys_insertSorted {key k : String} {value : α} {table : List (String × α)} :
    k ∈ (insertSorted key value table).map (·.1) ↔ k = key ∨ k ∈ table.map (·.1) := by
  induction table with
  | nil => simp [insertSorted]
  | cons first rest ih =>
    obtain ⟨first, v⟩ := first
    unfold insertSorted
    split
    · rename_i heq
      subst heq
      simp
    · split
      · simp
      · rw [List.map_cons, List.map_cons, List.mem_cons, List.mem_cons, ih, or_left_comm]

/-- A sorted table has the keys that went in. -/
theorem mem_keys_sortedTable {k : String} {entries : List (String × α)} :
    k ∈ (sortedTable entries).map (·.1) ↔ k ∈ entries.map (·.1) := by
  have hfold : ∀ (entries table : List (String × α)),
      k ∈ (entries.foldl (fun table e => insertSorted e.1 e.2 table) table).map (·.1) ↔
        k ∈ table.map (·.1) ∨ k ∈ entries.map (·.1) := by
    intro entries
    induction entries with
    | nil => simp
    | cons e rest ih =>
      intro table
      rw [List.foldl_cons, ih, mem_keys_insertSorted, List.map_cons, List.mem_cons, or_assoc, or_left_comm]
  have hempty := hfold entries []
  rwa [List.map_nil, or_iff_right List.not_mem_nil] at hempty

theorem nodup_keys_sortedTable (entries : List (String × α)) : ((sortedTable entries).map (·.1)).Nodup :=
  List.pairwise_map.mpr ((sortedTable_increasing entries).imp ne_of_lt)

end

/-! ## Markers of packages -/

namespace Python

/-- Different directories have different markers. -/
theorem markerPath_injective : Function.Injective markerPath := by
  have hlength : ∀ dir : String, (markerPath dir).toList =
      if dir.isEmpty then "__init__.py".toList else dir.toList ++ "/__init__.py".toList := by
    intro dir
    unfold markerPath
    split
    · rfl
    · rw [String.toList_append]
  intro dir dir' h
  have hlist := congrArg String.toList h
  rw [hlength, hlength] at hlist
  -- The marker of the output directory is shorter than all others.
  split at hlist
  · rename_i hempty
    split at hlist
    · rename_i hempty'
      rw [String.isEmpty_iff.mp hempty, String.isEmpty_iff.mp hempty']
    · have hlong := congrArg List.length hlist
      simp at hlong
  · split at hlist
    · have hlong := congrArg List.length hlist
      simp at hlong
    · exact String.toList_inj.mp (List.append_cancel_right hlist)

/-- The paths of the markers, in order of the directories that are walked through. -/
theorem paths_packageMarkers (files : List OutputFile) :
    (packageMarkers files).map (·.path) =
      (((sortedTable (((files.filter fun f => Text.endsWith f.path ".py").flatMap fun f =>
        ancestors f.path.toList.reverse).map fun dir => (dir, ()))).map (·.1)).map markerPath).filter
          fun path => !files.any fun f => f.path == path := by
  have hid : (fun f : OutputFile => f.path) ∘ (fun path => ⟨path, markerText, none⟩) = id := rfl
  unfold packageMarkers
  rw [List.map_map, hid, List.map_id]

theorem nodup_packageMarkers (files : List OutputFile) : ((packageMarkers files).map (·.path)).Nodup := by
  rw [paths_packageMarkers]
  exact (List.Nodup.map markerPath_injective (nodup_keys_sortedTable _)).filter _

theorem path_ne_of_mem_packageMarkers {files : List OutputFile} {marker : OutputFile}
    (h : marker ∈ packageMarkers files) : ∀ f ∈ files, f.path ≠ marker.path := by
  obtain ⟨path, hpath, rfl⟩ := List.mem_map.mp h
  simpa using (List.mem_filter.mp hpath).2

end Python

/-! ## All targets -/

/-- A companion belongs to no class. -/
theorem ownerClass_companions (target : Target) (files : List OutputFile) :
    ∀ f ∈ target.emitter.companions files, f.ownerClass = none := by
  intro f hf
  cases target with
  | python =>
    obtain ⟨path, -, rfl⟩ := List.mem_map.mp hf
    rfl
  | _ => cases hf

/-- Companions have paths of their own, so that no path is used twice if none was before. -/
theorem nodup_companions (target : Target) (files : List OutputFile) :
    ((files ++ target.emitter.companions files).map (·.path)).Nodup ↔ (files.map (·.path)).Nodup := by
  have hcompanions : ((target.emitter.companions files).map (·.path)).Nodup ∧
      ∀ c ∈ target.emitter.companions files, ∀ f ∈ files, f.path ≠ c.path := by
    cases target with
    | python =>
      exact ⟨Python.nodup_packageMarkers files, fun c hc => Python.path_ne_of_mem_packageMarkers hc⟩
    | _ => exact ⟨List.nodup_nil, fun c hc => by cases hc⟩
  rw [List.map_append, List.nodup_append]
  constructor
  · exact fun h => h.1
  · intro h
    refine ⟨h, hcompanions.1, ?_⟩
    intro path hpath path' hpath'
    obtain ⟨f, hf, rfl⟩ := List.mem_map.mp hpath
    obtain ⟨c, hc, rfl⟩ := List.mem_map.mp hpath'
    exact hcompanions.2 c hc f hf

end ServiceStubs
