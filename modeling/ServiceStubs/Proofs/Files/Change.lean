import ServiceStubs.Proofs.Files.Way

/-!
# What operations change

Operations on a tree in terms of the places that their paths name, and of what is at all other places.

* `at_cut_below`, `at_move_below` and `at_move_outside` say what is where after something has been
  removed or moved;
* `Adds` says that nothing but missing directories is made, and `makeDirectories_adds` that these are on the
  way to the directory that is asked for;
* `Sited` says that a path names a place in a directory that is there, and its lemmas say what the operations
  do with such a path.
-/

namespace ServiceStubs

/-- The kind of an entry. -/
def Entry.kind : Entry → EntryKind
  | .file _ => .file
  | .directory => .directory

namespace FileTree

variable {t t' t'' : FileTree} {place target other : TreePlace}

/-! ## Removing and moving -/

theorem at_cut_below (h : place <+: other) (hne : other ≠ []) : entry? (t.cut place) other = none := by
  unfold entry? cut
  dsimp only
  rw [if_neg hne, List.lookup_eq_none_iff]
  intro e he
  have hkept := (List.mem_filter.mp he).2
  rw [bne_iff_ne]
  rintro rfl
  rw [List.isPrefixOf_iff_prefix.mpr h] at hkept
  cases hkept

/-- Renaming the places of entries does not change what is found, if one place is renamed to one. -/
theorem lookup_map_of_iff {entries : List (TreePlace × Entry)} {f : TreePlace → TreePlace}
    (h : ∀ e ∈ entries, f e.1 = target ↔ e.1 = place) :
    (entries.map fun e => (f e.1, e.2)).lookup target = entries.lookup place := by
  induction entries with
  | nil => rfl
  | cons e rest ih =>
    have hrest := ih fun e' he' => h e' (List.mem_cons_of_mem e he')
    have hiff := h e List.mem_cons_self
    rw [List.map_cons, List.lookup_cons, List.lookup_cons, hrest]
    by_cases heq : e.1 = place
    · rw [hiff.mpr heq, heq, beq_self_eq_true, beq_self_eq_true]
    · have hne : f e.1 ≠ target := fun hf => heq (hiff.mp hf)
      rw [beq_false_of_ne (Ne.symm heq), beq_false_of_ne (Ne.symm hne)]

theorem moved_below (target : TreePlace) (h : place <+: other) :
    ∃ rest, other = place ++ rest ∧ moved place target other = target ++ rest := by
  obtain ⟨rest, rfl⟩ := h
  refine ⟨rest, rfl, ?_⟩
  unfold moved
  rw [if_pos (List.isPrefixOf_iff_prefix.mpr (List.prefix_append place rest)), List.drop_left]

theorem moved_outside (h : ¬place <+: other) : moved place target other = other := by
  unfold moved
  rw [if_neg fun hunder => h (List.isPrefixOf_iff_prefix.mp hunder)]

/-- What was below a place is below the target of the move, where nothing was before. -/
theorem at_move_below (hplace : place ≠ []) (hfree : ∀ s, t.entry? (target ++ s) = none) (s : TreePlace) :
    entry? (t.move place target) (target ++ s) = t.entry? (place ++ s) := by
  have htarget : target ++ s ≠ [] := by
    intro heq
    have hroot := hfree s
    rw [heq] at hroot
    cases hroot
  have hplace' : place ++ s ≠ [] := by simp [hplace]
  unfold entry? move
  dsimp only
  rw [if_neg htarget, if_neg hplace']
  refine lookup_map_of_iff fun e he => ?_
  by_cases hunder : place <+: e.1
  · obtain ⟨rest, heq, hmoved⟩ := moved_below target hunder
    rw [hmoved, heq]
    simp
  · rw [moved_outside hunder]
    constructor
    · -- Nothing was at the target.
      intro heq
      have hnone := hfree s
      unfold entry? at hnone
      rw [if_neg htarget, List.lookup_eq_none_iff] at hnone
      have hne := hnone e he
      rw [heq] at hne
      simp at hne
    · intro heq
      exact absurd (heq ▸ List.prefix_append place s) hunder

/-- What is neither below a place nor below the target of its move stays where it is. -/
theorem at_move_outside (hplace : ¬place <+: other) (htarget : ¬target <+: other) :
    entry? (t.move place target) other = t.entry? other := by
  unfold entry? move
  dsimp only
  split
  · rfl
  · refine lookup_map_of_iff fun e _ => ?_
    by_cases hunder : place <+: e.1
    · obtain ⟨rest, heq, hmoved⟩ := moved_below target hunder
      rw [hmoved]
      constructor
      · rintro rfl
        exact absurd (List.prefix_append target rest) htarget
      · intro hother
        exact absurd (hother ▸ hunder) hplace
    · rw [moved_outside hunder]

/-- Nothing stays below a place that is moved to somewhere else. -/
theorem at_move_left (hplace : place <+: other) (htarget : ¬target <+: other) (hne : other ≠ []) :
    entry? (t.move place target) other = none := by
  unfold entry? move
  dsimp only
  rw [if_neg hne, List.lookup_eq_none_iff]
  intro e he
  obtain ⟨e', -, rfl⟩ := List.mem_map.mp he
  rw [bne_iff_ne]
  intro heq
  by_cases hunder : place <+: e'.1
  · obtain ⟨rest, -, hmoved⟩ := moved_below target hunder
    rw [hmoved] at heq
    exact htarget (heq ▸ List.prefix_append target rest)
  · rw [moved_outside hunder] at heq
    exact hunder (heq ▸ hplace)

/-! ## Making directories -/

/-- Nothing has changed but that there are directories at some of the places where nothing was. -/
structure Adds (places : List TreePlace) (t t' : FileTree) : Prop where
  working : t'.working = t.working
  entries : ∀ q, t'.entry? q = t.entry? q ∨
    (q ∈ places ∧ t.entry? q = none ∧ t'.entry? q = some .directory)

variable {places : List TreePlace}

theorem Adds.refl (places : List TreePlace) (t : FileTree) : Adds places t t :=
  ⟨rfl, fun _ => .inl rfl⟩

theorem Adds.trans (h : Adds places t t') (h' : Adds places t' t'') : Adds places t t'' := by
  refine ⟨h'.working.trans h.working, fun q => ?_⟩
  rcases h.entries q with heq | ⟨hq, hnone, hsome⟩
  · rw [← heq]
    exact h'.entries q
  · rcases h'.entries q with heq' | ⟨-, hnone', -⟩
    · exact .inr ⟨hq, hnone, heq'.trans hsome⟩
    · rw [hsome] at hnone'
      cases hnone'

theorem Adds.mono (h : Adds places t t') {more : List TreePlace} (hsubset : ∀ q ∈ places, q ∈ more) :
    Adds more t t' :=
  ⟨h.working, fun q => (h.entries q).imp_right fun ⟨hq, hrest⟩ => ⟨hsubset q hq, hrest⟩⟩

theorem Adds.eq_of_not_mem (h : Adds places t t') {q : TreePlace} (hq : q ∉ places) :
    t'.entry? q = t.entry? q :=
  (h.entries q).resolve_right fun hadded => hq hadded.1

theorem Adds.isDirectory (h : Adds places t t') {q : TreePlace} (hq : t.isDirectory q) : t'.isDirectory q := by
  unfold FileTree.isDirectory at hq ⊢
  rcases h.entries q with heq | ⟨-, -, hsome⟩
  · rwa [heq]
  · rw [hsome]
    rfl

theorem ne_root_of_free (h : t.entry? place = none) : place ≠ [] := by
  rintro rfl
  cases h

theorem adds_put (hplace : place ∈ places) (hfree : t.entry? place = none) :
    Adds places t (t.put place .directory) := by
  refine ⟨rfl, fun q => ?_⟩
  by_cases heq : q = place
  · subst heq
    exact .inr ⟨hplace, hfree, at_put_self .directory (ne_root_of_free hfree)⟩
  · exact .inl (at_put_of_ne .directory heq)

theorem origin_congr (hworking : t'.working = t.working) {path path' : String}
    (habsolute : Files.isAbsolute path' = Files.isAbsolute path) : t'.origin path' = t.origin path := by
  unfold origin
  rw [hworking, habsolute]

/-- The directories that are made are on the way to the one that is asked for. -/
theorem makeDirectoriesFrom_adds (t : FileTree) (bound : Nat) (path : String) :
    Adds (way (t.origin path) (Files.steps path)) t (t.makeDirectoriesFrom bound path).2 := by
  -- Each round of the bound makes the parent first, whose way is this one without its last step.
  induction bound generalizing path with
  | zero =>
    unfold makeDirectoriesFrom
    split
    · exact .refl _ t
    · exact .refl _ t
  | succ bound ih =>
    by_cases hthere : path = "" ∨ t.kind? path = some .directory
    · unfold makeDirectoriesFrom
      rw [if_pos hthere]
      exact .refl _ t
    · rcases makeDirectoriesFrom_cases t (bound + 1) hthere with heq | ⟨_, parent, made, t', hb, hp, hmade, heq⟩
      · rw [heq]
        exact .refl _ t
      · cases hb
        obtain ⟨hsteps, habsolute⟩ := Files.steps_parent? hp
        have hparent : Adds (way (t.origin path) (Files.steps path)) t t' := by
          have hadds := ih parent
          rw [hmade, hsteps, origin_congr rfl habsolute] at hadds
          exact hadds.mono fun q => mem_way_of_dropLast
        rcases heq with heq | heq | ⟨t'', hmake, heq⟩
        · rw [heq]
          exact hparent
        · rw [heq]
          exact hparent
        · rw [heq]
          obtain ⟨place, hplace, hfree, rfl⟩ := makeDirectory?_eq_some hmake
          have hgoal := locate?_eq_goal hplace
          rw [origin_congr hparent.working rfl] at hgoal
          exact hparent.trans (adds_put (hgoal ▸ goal_mem_way _ _) hfree)

theorem makeDirectories_adds (t : FileTree) (path : String) :
    Adds (way (t.origin path) (Files.steps path)) t (t.makeDirectories path).2 :=
  makeDirectoriesFrom_adds t path.length path

/-- When they have been made, all of the way is directories. -/
theorem way_of_makeDirectories {path : String} (hne : path ≠ "") (h : (t.makeDirectories path).1) :
    ∀ q ∈ way (t.origin path) (Files.steps path), (t.makeDirectories path).2.isDirectory q := by
  obtain ⟨place, hdirectory⟩ := directoryAt_of_kind? (kind?_of_makeDirectoriesFrom hne h)
  have hway := ((directoryAt_iff hne).mp hdirectory).2
  have horigin : (t.makeDirectoriesFrom path.length path).2.origin path = t.origin path :=
    origin_congr (makeDirectories_adds t path).working rfl
  rwa [horigin] at hway

theorem locate?_of_lost {path : String} (hlost : ¬t.isDirectory (t.origin path)) : t.locate? path = none := by
  rcases hlocate : t.locate? path with _ | place
  · rfl
  · exact absurd (isDirectory_origin hlocate) hlost

/-- Nothing is found from a place where no directory is. -/
theorem kind?_of_lost {path : String} (hlost : ¬t.isDirectory (t.origin path)) : t.kind? path = none := by
  unfold kind? find?
  rw [locate?_of_lost hlost]
  rfl

/-- Nothing is made on the way from such a place. -/
theorem makeDirectoriesFrom_of_lost {path : String} (hlost : ¬t.isDirectory (t.origin path)) (bound : Nat) :
    t.makeDirectoriesFrom bound path = (decide (path = ""), t) := by
  by_cases hempty : path = ""
  · unfold makeDirectoriesFrom
    simp [hempty]
  · have hmissing : ¬(path = "" ∨ t.kind? path = some .directory) := by simp [hempty, kind?_of_lost hlost]
    rw [decide_eq_false hempty]
    induction bound generalizing path with
    | zero =>
      unfold makeDirectoriesFrom
      rw [if_neg hmissing]
    | succ bound ih =>
      rcases makeDirectoriesFrom_cases t (bound + 1) hmissing with heq | ⟨_, parent, made, t', hb, hp, hmade, heq⟩
      · exact heq
      · cases hb
        have horigin : t.origin parent = t.origin path := origin_congr rfl (Files.steps_parent? hp).2
        -- The parent starts from the same place, so that nothing has been made for it either.
        have hsame : t' = t := by
          by_cases hparent : parent = ""
          · unfold makeDirectoriesFrom at hmade
            rw [if_pos (.inl hparent)] at hmade
            exact (congrArg Prod.snd hmade).symm
          · have hkind := kind?_of_lost (horigin ▸ hlost)
            have hstuck := ih (horigin ▸ hlost) hparent (by simp [hparent, hkind])
            exact congrArg Prod.snd (hmade.symm.trans hstuck)
        subst hsame
        rcases heq with heq | heq | ⟨t'', hmake, -⟩
        · exact heq
        · rw [heq, kind?_of_lost hlost]
          rfl
        · obtain ⟨place, hplace, -, -⟩ := makeDirectory?_eq_some hmake
          exact absurd (isDirectory_origin hplace) hlost

/-! ## Paths in directories that are there -/

/-- The places on the way to what holds the place that a path names. -/
def approach (t : FileTree) (path : String) : List TreePlace :=
  way (t.origin path) (Files.steps path).dropLast

/-- The path ends in a name, and the directory in which it names something is there. -/
structure Sited (t : FileTree) (path : String) (place : TreePlace) : Prop where
  name : EndsInName (Text.splitOn '/' path)
  place_eq : place = goal (t.origin path) (Files.steps path)
  holder : ∀ q ∈ t.approach path, t.isDirectory q

variable {path : String}

theorem endsInName_of_split (h : EndsInName (Text.splitOn '/' path)) : endsInName path := by
  obtain ⟨outer, name, hsplit, hname⟩ := h
  unfold endsInName
  rw [hsplit, List.reverse_append, List.reverse_singleton, List.singleton_append,
    List.dropWhile_cons_of_neg (by simpa using hname.nonempty)]
  simp [hname.not_here, hname.not_up]

theorem not_demandsDirectory (h : EndsInName (Text.splitOn '/' path)) : demandsDirectory path = false :=
  Bool.eq_false_iff.mpr (Files.not_endsWith_slash h)

theorem Sited.locate?_eq (h : t.Sited path place) : t.locate? path = some place := by
  rw [h.place_eq]
  exact locate?_of_way (endsInName_of_split h.name) h.holder

theorem Sited.find?_eq (h : t.Sited path place) :
    t.find? path = (t.entry? place).map fun entry => (place, entry) := by
  unfold find?
  rw [h.locate?_eq, not_demandsDirectory h.name]
  cases hentry : t.entry? place <;> simp [hentry]

theorem find?_eq_some {entry : Entry} (h : t.find? path = some (place, entry)) :
    t.locate? path = some place ∧ t.entry? place = some entry := by
  unfold find? at h
  simp only [Option.bind_eq_bind, Option.bind_eq_some_iff] at h
  obtain ⟨q, hlocate, e, hentry, hguard⟩ := h
  split at hguard
  · cases hguard
  · cases hguard
    exact ⟨hlocate, hentry⟩

theorem kind?_of_find? {entry : Entry} (h : t.find? path = some (place, entry)) :
    t.kind? path = some entry.kind := by
  unfold kind?
  rw [h]
  cases entry <;> rfl

theorem Sited.kind?_eq (h : t.Sited path place) : t.kind? path = (t.entry? place).map Entry.kind := by
  have hfind := h.find?_eq
  cases hentry : t.entry? place with
  | none =>
    rw [hentry] at hfind
    unfold kind?
    rw [hfind]
    rfl
  | some entry =>
    rw [hentry] at hfind
    rw [kind?_of_find? hfind]
    rfl

theorem Sited.removeDirectory?_eq (h : t.Sited path place) :
    t.removeDirectory? path = if t.isDirectory place then some (t.cut place) else none := by
  unfold removeDirectory? isDirectory
  rw [h.find?_eq]
  cases hentry : t.entry? place with
  | none => rfl
  | some entry => cases entry <;> rfl

theorem Sited.steps_ne_nil (h : t.Sited path place) : Files.steps path ≠ [] := by
  obtain ⟨outer, name, hsplit, hname⟩ := h.name
  unfold Files.steps
  rw [hsplit, List.filter_append, List.filter_cons_of_pos (Files.isStep_of_isName hname)]
  simp

theorem Sited.parent? (h : t.Sited path place) : ∃ parent, Files.parent? path = some parent ∧
    Files.steps parent = (Files.steps path).dropLast ∧ t.origin parent = t.origin path := by
  obtain ⟨parent, hparent⟩ : ∃ parent, Files.parent? path = some parent := by
    unfold Files.parent?
    rcases hbody : Files.bodyBackward path with _ | ⟨last, outer⟩
    · have hsteps := Files.steps_eq_body path
      rw [hbody] at hsteps
      exact absurd hsteps h.steps_ne_nil
    · exact ⟨_, rfl⟩
  obtain ⟨hsteps, habsolute⟩ := Files.steps_parent? hparent
  exact ⟨parent, hparent, hsteps, origin_congr rfl habsolute⟩

/-- One directory is made where nothing is. -/
theorem Sited.makeDirectories_eq (h : t.Sited path place) (hfree : t.entry? place = none) :
    t.makeDirectories path = (true, t.put place .directory) := by
  obtain ⟨parent, hparent, hsteps, horigin⟩ := h.parent?
  have hmissing : ¬(path = "" ∨ t.kind? path = some .directory) := by
    rw [h.kind?_eq, hfree]
    simp [h.name.path_ne]
  have hthere : parent = "" ∨ t.kind? parent = some .directory := by
    by_cases hempty : parent = ""
    · exact .inl hempty
    · refine .inr (kind?_of_directoryAt ((directoryAt_iff hempty).mpr ⟨rfl, ?_⟩))
      rw [hsteps, horigin]
      exact h.holder
  have hmake : t.makeDirectory? path = some (t.put place .directory) := by
    unfold makeDirectory?
    rw [h.locate?_eq]
    simp [hfree]
  obtain ⟨bound, hbound⟩ : ∃ bound, path.length = bound + 1 :=
    Nat.exists_eq_succ_of_ne_zero (by simpa using h.name.path_ne)
  -- The recursion ends at the parent, since that is a directory already.
  have hmade : t.makeDirectoriesFrom bound parent = (true, t) := by
    unfold makeDirectoriesFrom
    rw [if_pos hthere]
  unfold makeDirectories
  rw [hbound]
  unfold makeDirectoriesFrom
  rw [if_neg hmissing, hparent]
  simp only [hmade, hmake, if_true]

end FileTree

end ServiceStubs
