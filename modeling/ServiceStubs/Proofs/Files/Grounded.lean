import Mathlib.Data.List.Induction
import ServiceStubs.Proofs.Files.Change

/-!
# Grounded trees

In a file system, whatever is there is in a directory. All operations on trees keep it so, whether they
succeed or not.

* `Grounded.free` says that nothing is below a place where nothing is;
* `Grounded.put`, `Grounded.cut` and `Grounded.move` are the changes of entries, and
  `makeDirectories_grounded`, `writeText?_grounded`, `removeDirectory?_grounded` and `rename?_grounded` the
  operations;
* `Moved` compares a tree with what it becomes when something is moved to a free place.
-/

namespace ServiceStubs.FileTree

/-- Whatever is in the tree is in a directory. -/
def Grounded (t : FileTree) : Prop :=
  ∀ place name, (t.entry? (place ++ [name])).isSome → t.isDirectory place

variable {t t' : FileTree} {place target : TreePlace}

/-- It is enough to look at the entries. -/
theorem grounded_of_entries (h : ∀ e ∈ t.entries, t.isDirectory e.1.dropLast) : t.Grounded := by
  intro place name hsome
  obtain ⟨e, he, heq⟩ : ∃ e ∈ t.entries, e.1 = place ++ [name] := by
    by_contra hnone
    unfold entry? at hsome
    rw [if_neg (by simp), Option.isSome_iff_ne_none, ne_eq, List.lookup_eq_none_iff] at hsome
    refine hsome fun e he => ?_
    rw [bne_iff_ne]
    exact fun heq => hnone ⟨e, he, heq.symm⟩
  have hdirectory := h e he
  rwa [heq, List.dropLast_concat] at hdirectory

/-! ## What is above and below -/

theorem Grounded.dropLast (h : t.Grounded) (hplace : t.isDirectory place) : t.isDirectory place.dropLast := by
  rcases List.eq_nil_or_concat place with rfl | ⟨outer, name, rfl⟩
  · exact hplace
  · rw [List.concat_eq_append] at hplace ⊢
    rw [List.dropLast_concat]
    refine h outer name ?_
    unfold isDirectory at hplace
    rw [decide_eq_true_iff] at hplace
    rw [hplace]
    rfl

/-- Nothing is below a place where nothing is. -/
theorem Grounded.free (h : t.Grounded) (hfree : t.entry? place = none) (s : TreePlace) :
    t.entry? (place ++ s) = none := by
  induction s using List.reverseRecOn with
  | nil => rwa [List.append_nil]
  | append_singleton outer name ih =>
    by_contra hsome
    rw [← List.append_assoc] at hsome
    have hdirectory := h (place ++ outer) name (Option.isSome_iff_ne_none.mpr hsome)
    unfold isDirectory at hdirectory
    rw [ih] at hdirectory
    cases hdirectory

theorem Grounded.dropLast_of_walk? (h : t.Grounded) {here : TreePlace} {segments : List String}
    (hhere : t.isDirectory here.dropLast) (hwalk : t.walk? here segments = some place) :
    t.isDirectory place.dropLast := by
  induction segments generalizing here with
  | nil =>
    cases hwalk
    exact hhere
  | cons segment rest ih =>
    rw [walk?_cons] at hwalk
    split at hwalk
    · rename_i hdirectory
      refine ih ?_ hwalk
      unfold next
      split
      · exact hhere
      · split
        · exact h.dropLast hhere
        · rwa [List.dropLast_concat]
    · cases hwalk

/-- What a path names is in a directory. -/
theorem Grounded.dropLast_of_locate? (h : t.Grounded) {path : String} (hplace : t.locate? path = some place) :
    t.isDirectory place.dropLast := by
  have horigin := isDirectory_origin hplace
  have hne : path ≠ "" := by
    rintro rfl
    cases hplace
  rw [locate?_eq_walk? t hne] at hplace
  exact h.dropLast_of_walk? (h.dropLast horigin) hplace

/-! ## Changes of entries -/

theorem Grounded.put (h : t.Grounded) (entry : Entry) (hholder : t.isDirectory place.dropLast)
    (hnot : ¬t.isDirectory place) : (t.put place entry).Grounded := by
  have hkept : ∀ q, t.isDirectory q → (t.put place entry).isDirectory q :=
    (put_within entry (List.prefix_refl place) hnot).directories
  intro q name hsome
  by_cases heq : q ++ [name] = place
  · rw [← heq, List.dropLast_concat] at hholder
    exact hkept q hholder
  · rw [at_put_of_ne entry heq] at hsome
    exact hkept q (h q name hsome)

theorem isDirectory_congr {other : TreePlace} (h : t'.entry? other = t.entry? place)
    (hplace : t.isDirectory place) : t'.isDirectory other := by
  unfold isDirectory at hplace ⊢
  rwa [h]

theorem Grounded.cut (h : t.Grounded) (place : TreePlace) : (t.cut place).Grounded := by
  intro q name hsome
  have hout : ¬place <+: q ++ [name] := by
    intro hunder
    rw [at_cut_below hunder (by simp)] at hsome
    cases hsome
  rw [at_cut hout] at hsome
  refine isDirectory_congr (at_cut fun hq => ?_) (h q name hsome)
  exact hout (hq.trans (List.prefix_append q [name]))

theorem Grounded.move (h : t.Grounded) (hfree : t.entry? target = none)
    (hholder : t.isDirectory target.dropLast) (hnot : ¬place <+: target) : (t.move place target).Grounded := by
  have hplace : place ≠ [] := by
    rintro rfl
    exact hnot List.nil_prefix
  have hbelow := at_move_below hplace (h.free hfree)
  -- What is outside of both places stays in its directory.
  have houtside : ∀ q, ¬place <+: q → t.isDirectory q → (t.move place target).isDirectory q := by
    intro q hq hdirectory
    refine isDirectory_congr (at_move_outside hq ?_) hdirectory
    rintro ⟨s, rfl⟩
    unfold isDirectory at hdirectory
    rw [h.free hfree s] at hdirectory
    cases hdirectory
  intro q name hsome
  by_cases htarget : target <+: q ++ [name]
  · rcases List.prefix_concat_iff.mp htarget with heq | ⟨s, rfl⟩
    · rw [heq, List.dropLast_concat] at hholder
      refine houtside q (fun hq => hnot ?_) hholder
      exact heq ▸ hq.trans (List.prefix_append q [name])
    · rw [List.append_assoc, hbelow, ← List.append_assoc] at hsome
      exact isDirectory_congr (hbelow s) (h (place ++ s) name hsome)
  · have hout : ¬place <+: q ++ [name] := by
      intro hunder
      rw [at_move_left hunder htarget (by simp)] at hsome
      cases hsome
    rw [at_move_outside hout htarget] at hsome
    exact houtside q (fun hq => hout (hq.trans (List.prefix_append q [name]))) (h q name hsome)

/-! ## Operations -/

theorem makeDirectoriesFrom_grounded (h : t.Grounded) (bound : Nat) (path : String) :
    (t.makeDirectoriesFrom bound path).2.Grounded := by
  induction bound generalizing path with
  | zero =>
    unfold makeDirectoriesFrom
    split
    · exact h
    · exact h
  | succ bound ih =>
    by_cases hthere : path = "" ∨ t.kind? path = some .directory
    · unfold makeDirectoriesFrom
      rw [if_pos hthere]
      exact h
    · rcases makeDirectoriesFrom_cases t (bound + 1) hthere with heq | ⟨_, parent, made, t', hb, -, hmade, heq⟩
      · rwa [heq]
      · -- What is made for the parent is grounded by induction, and one more directory stands in the parent.
        cases hb
        have hparent := ih parent
        rw [hmade] at hparent
        rcases heq with heq | heq | ⟨t'', hmake, heq⟩
        · rwa [heq]
        · rwa [heq]
        · rw [heq]
          obtain ⟨place, hplace, hfree, rfl⟩ := makeDirectory?_eq_some hmake
          exact hparent.put _ (hparent.dropLast_of_locate? hplace) (by simp [isDirectory, hfree])

theorem makeDirectories_grounded (h : t.Grounded) (path : String) : (t.makeDirectories path).2.Grounded :=
  makeDirectoriesFrom_grounded h path.length path

theorem writeText?_grounded (h : t.Grounded) {path text : String} (hwrite : t.writeText? path text = some t') :
    t'.Grounded := by
  obtain ⟨place, hplace, hfree, rfl⟩ := writeText?_eq_some hwrite
  exact h.put _ (h.dropLast_of_locate? hplace) hfree

theorem removeDirectory?_grounded (h : t.Grounded) {path : String} (hremove : t.removeDirectory? path = some t') :
    t'.Grounded := by
  unfold removeDirectory? at hremove
  split at hremove
  · cases hremove
    exact h.cut _
  · cases hremove

/-- What a move can do: nothing, or to move something to a place that is free or to one that is cleared before,
an empty directory for a directory or a file for a file. -/
theorem rename?_eq_some {path path' : String} (h : t.rename? path path' = some t') :
    endsInName path ∧ endsInName path' ∧ ∃ place entry target,
      t.find? path = some (place, entry) ∧ t.locate? path' = some target ∧
        (place = target ∧ t' = t ∨
          ¬place <+: target ∧
            (entry = .directory ∧ t.entry? target = none ∧ t' = t.move place target ∨
              (entry = .directory ∧ t.entry? target = some .directory ∧ t.namesIn target = [] ∨
                entry ≠ .directory ∧ t.entry? target ≠ some .directory ∧ ¬demandsDirectory path') ∧
                t' = (t.cut target).move place target)) := by
  unfold rename? at h
  by_cases hends : !endsInName path || !endsInName path'
  · simp [hends] at h
  · have hnames : endsInName path ∧ endsInName path' := by simpa using hends
    refine ⟨hnames.1, hnames.2, ?_⟩
    rcases hfind : t.find? path with _ | ⟨place, entry⟩
    · simp [hends, hfind] at h
    · rcases hlocate : t.locate? path' with _ | target
      · simp [hends, hfind, hlocate] at h
      · refine ⟨place, entry, target, rfl, rfl, ?_⟩
        -- What is moved is located, and so is where it goes. The tests come in the order in which a move makes them.
        by_cases hsame : place = target
        · simp [hends, hfind, hlocate, hsame] at h
          exact .inl ⟨hsame, h.symm⟩
        · by_cases hbelow : place.isPrefixOf target
          · simp only [hends, hfind, hlocate, hsame, hbelow, if_true, if_false, Option.bind_eq_bind,
              Option.bind_some, Option.bind_none] at h
            cases h
          · simp only [hends, hfind, hlocate, hsame, hbelow, Bool.false_eq_true, Option.bind_eq_bind,
              Option.bind_some, if_false] at h
            refine .inr ⟨fun hunder => hbelow (List.isPrefixOf_iff_prefix.mpr hunder), ?_⟩
            split at h
            · rename_i hfree
              cases h
              exact .inl ⟨rfl, hfree, rfl⟩
            · rename_i hdirectory
              split at h
              · rename_i hempty
                cases h
                exact .inr ⟨.inl ⟨rfl, hdirectory, List.isEmpty_iff.mp hempty⟩, rfl⟩
              · cases h
            · cases h
            · cases h
            · rename_i hnot
              split at h
              · cases h
              · rename_i hdemand
                cases h
                exact .inr ⟨.inr ⟨by simp, hnot, hdemand⟩, rfl⟩

theorem rename?_grounded (h : t.Grounded) {path target : String} (hrename : t.rename? path target = some t') :
    t'.Grounded := by
  obtain ⟨-, -, place, entry, goal, -, hgoal, hmoved⟩ := rename?_eq_some hrename
  rcases hmoved with ⟨-, rfl⟩ | ⟨hnot, ⟨-, hfree, rfl⟩ | ⟨-, rfl⟩⟩
  · exact h
  · exact h.move hfree (h.dropLast_of_locate? hgoal) hnot
  · by_cases hroot : goal = []
    · -- Everything has been cleared.
      subst hroot
      intro q name hsome
      unfold entry? FileTree.move FileTree.cut at hsome
      simp at hsome
    · have hholder : ¬goal <+: goal.dropLast := by
        intro hunder
        have hlength := hunder.length_le
        have hpositive := List.length_pos_iff.mpr hroot
        rw [List.length_dropLast] at hlength
        omega
      exact (h.cut goal).move (at_cut_below (List.prefix_refl goal) hroot)
        (isDirectory_congr (at_cut hholder) (h.dropLast_of_locate? hgoal)) hnot

/-! ## Moving to a free place -/

/-- Neither of two places is below the other one. -/
def Separate (place other : TreePlace) : Prop :=
  ¬place <+: other ∧ ¬other <+: place

theorem Separate.symm {other : TreePlace} (h : Separate place other) : Separate other place :=
  ⟨h.2, h.1⟩

theorem Separate.not_below {other : TreePlace} (h : Separate place other) (s : TreePlace) :
    ¬place <+: other ++ s := by
  intro hunder
  rcases List.prefix_or_prefix_of_prefix hunder (List.prefix_append other s) with hp | hp
  · exact h.1 hp
  · exact h.2 hp

/-- What was at a place and below it is now at another one. -/
structure Moved (place target : TreePlace) (t t' : FileTree) : Prop where
  working : t'.working = moved place target t.working
  below : ∀ s, t'.entry? (target ++ s) = t.entry? (place ++ s)
  left : ∀ s, t'.entry? (place ++ s) = none
  outside : ∀ q, ¬place <+: q → ¬target <+: q → t'.entry? q = t.entry? q

theorem move_moved (hseparate : Separate place target) (hfree : ∀ s, t.entry? (target ++ s) = none) :
    Moved place target t (t.move place target) := by
  have hplace : place ≠ [] := by
    rintro rfl
    exact hseparate.1 List.nil_prefix
  exact ⟨rfl, at_move_below hplace hfree,
    fun s => at_move_left (List.prefix_append place s) (hseparate.symm.not_below s) (by simp [hplace]),
    fun q => at_move_outside⟩

/-- Clearing a place where nothing is changes nothing. -/
theorem at_cut_free (hfree : ∀ s, t.entry? (target ++ s) = none) (q : TreePlace) :
    entry? (t.cut target) q = t.entry? q := by
  by_cases hunder : target <+: q
  · obtain ⟨s, rfl⟩ := hunder
    have hne : target ++ s ≠ [] := ne_root_of_free (hfree s)
    rw [hfree s, at_cut_below (List.prefix_append target s) hne]
  · exact at_cut hunder

/-- What is at a path moves to a path at which nothing is. -/
theorem rename?_moved (h : t.Grounded) {path path' : String} {entry : Entry} (hends : endsInName path)
    (hends' : endsInName path') (hfind : t.find? path = some (place, entry))
    (hlocate : t.locate? path' = some target) (hfree : t.entry? target = none) (hseparate : Separate place target)
    (hdemand : demandsDirectory path' → entry = .directory) :
    ∃ t', t.rename? path path' = some t' ∧ Moved place target t t' := by
  have hne : place ≠ target := by
    rintro rfl
    exact hseparate.1 (List.prefix_refl place)
  have hnot : place.isPrefixOf target = false :=
    Bool.eq_false_iff.mpr fun hunder => hseparate.1 (List.isPrefixOf_iff_prefix.mp hunder)
  unfold rename?
  simp only [hends, hends', hfind, hlocate, hfree, hne, hnot, Option.bind_eq_bind, Option.bind_some]
  cases entry with
  | directory => exact ⟨_, rfl, move_moved hseparate (h.free hfree)⟩
  | file content =>
    have hdemands : demandsDirectory path' = false := by
      by_contra hdirectory
      cases hdemand (by simpa using hdirectory)
    -- A file clears its target first, which changes nothing where nothing is.
    refine ⟨(t.cut target).move place target, by simp [hdemands], ?_⟩
    have hsame := at_cut_free (h.free hfree)
    have hmoved := move_moved (t := t.cut target) hseparate fun s => (hsame _).trans (h.free hfree s)
    exact ⟨hmoved.working, fun s => (hmoved.below s).trans (hsame _), hmoved.left,
      fun q hq hq' => (hmoved.outside q hq hq').trans (hsame q)⟩

/-- A move to a place where nothing is. -/
theorem moved_of_rename? (h : t.Grounded) {path path' : String} {entry : Entry}
    (hfind : t.find? path = some (place, entry)) (hlocate : t.locate? path' = some target)
    (hfree : t.entry? target = none) (hseparate : Separate place target)
    (hrename : t.rename? path path' = some t') :
    Moved place target t t' := by
  obtain ⟨hends, hends', place', entry', target', hfind', hlocate', hmoved⟩ := rename?_eq_some hrename
  obtain ⟨rfl, rfl⟩ : place = place' ∧ entry = entry' := by simpa [hfind] using hfind'
  obtain rfl : target = target' := by simpa [hlocate] using hlocate'
  have hdemand : demandsDirectory path' → entry = .directory := by
    rcases hmoved with ⟨heq, -⟩ | ⟨-, ⟨hdirectory, -, -⟩ | ⟨⟨hdirectory, -, -⟩ | ⟨-, -, hnot⟩, -⟩⟩
    · exact absurd (heq ▸ List.prefix_refl place) hseparate.1
    · exact fun _ => hdirectory
    · exact fun _ => hdirectory
    · exact fun h => absurd h hnot
  obtain ⟨t'', hsome, hmove⟩ := rename?_moved h hends hends' hfind hlocate hfree hseparate hdemand
  rw [hrename] at hsome
  cases hsome
  exact hmove

end ServiceStubs.FileTree
