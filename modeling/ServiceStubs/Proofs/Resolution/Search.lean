import ServiceStubs.Resolution.Location

/-!
# Searching modules

What is found was found in some module, and the modules that a search comes to are those that are imported,
one from the other.

* `mem_of_firstFound` and `inModule_eq_some` are the steps of a search, read backwards;
* `locate_stays` says that a search stays among modules that import from each other only;
* `locate_congr` says that nothing but the modules of a library matters for it.
-/

namespace ServiceStubs.Resolution

open Source

/-! ## Searching a list -/

section

variable {α β : Type} {search : α → Except Error (Option β)} {l : List α} {a : α} {b : β}

theorem mem_of_firstFound (h : firstFound search l = .ok (some b)) : ∃ a ∈ l, search a = .ok (some b) := by
  induction l with
  | nil => cases h
  | cons first rest ih =>
    unfold firstFound at h
    rcases hfirst : search first with e | _ | found
    · rw [hfirst] at h
      cases h
    · rw [hfirst] at h
      obtain ⟨a, ha, hsearch⟩ := ih h
      exact ⟨a, List.mem_cons_of_mem first ha, hsearch⟩
    · rw [hfirst] at h
      cases h
      exact ⟨first, List.mem_cons_self, hfirst⟩

theorem firstFound_isOk (h : ∀ a ∈ l, ∃ found?, search a = .ok found?) :
    ∃ found?, firstFound search l = .ok found? := by
  induction l with
  | nil => exact ⟨none, rfl⟩
  | cons a rest ih =>
    unfold firstFound
    obtain ⟨found?, ha⟩ := h a List.mem_cons_self
    rw [ha]
    cases found? with
    | none => exact ih fun a' ha' => h a' (List.mem_cons_of_mem a ha')
    | some found => exact ⟨some found, rfl⟩

/-- Something is found where a member of the list has something. -/
theorem firstFound_eq_some (h : ∀ a ∈ l, ∃ found?, search a = .ok found?) (ha : a ∈ l)
    (hsearch : search a = .ok (some b)) : ∃ found, firstFound search l = .ok (some found) := by
  induction l with
  | nil => cases ha
  | cons first rest ih =>
    unfold firstFound
    obtain ⟨found?, hfirst⟩ := h first List.mem_cons_self
    rw [hfirst]
    cases found? with
    | some found => exact ⟨found, rfl⟩
    | none =>
      rcases List.mem_cons.mp ha with rfl | ha
      · rw [hsearch] at hfirst
        cases hfirst
      · exact ih (fun a' ha' => h a' (List.mem_cons_of_mem first ha')) ha

end

/-! ## Going on with another module -/

section

variable {β : Type} {library : Library} {m target : Module} {specifier : String}
  {search : Module → Except Error (Option β)}

theorem inModule_of_load (h : library.load? m specifier = .ok (some target)) :
    inModule library m specifier search = search target := by
  unfold inModule
  rw [h]
  rfl

theorem inModule_eq_some {b : β} (h : inModule library m specifier search = .ok (some b)) :
    ∃ target, library.load? m specifier = .ok (some target) ∧ search target = .ok (some b) := by
  unfold inModule at h
  rcases hload : library.load? m specifier with e | _ | target
  · rw [hload] at h
    cases h
  · rw [hload] at h
    cases h
  · rw [hload] at h
    exact ⟨target, rfl, h⟩

end

/-! ## Where a search leads -/

section

variable {library : Library} {among : Module → Prop}

theorem locateWith_stays {search : Module → String → Except Error (Option Location)}
    (himports : ∀ m specifier target, among m → library.load? m specifier = .ok (some target) → among target)
    (hsearch : ∀ m name location, among m → search m name = .ok (some location) → among location.module)
    {m : Module} {name : String} {location : Location} (hm : among m)
    (h : locateWith library search m name = .ok (some location)) : among location.module := by
  unfold locateWith at h
  split at h
  · cases h
    exact hm
  · split at h
    · cases h
    · obtain ⟨target, hload, hfound⟩ := inModule_eq_some h
      exact hsearch target _ location (himports m _ target hm hload) hfound

theorem locateExport_stays
    (himports : ∀ m specifier target, among m → library.load? m specifier = .ok (some target) → among target)
    (steps : Nat) : ∀ m name location, among m → locateExport library steps m name = .ok (some location) →
      among location.module := by
  -- A name of the module itself uses up two steps, so that the bound is needed for all smaller ones.
  induction steps using Nat.strongRecOn with
  | ind steps ih =>
    intro m name location hm h
    cases steps with
    | zero => cases h
    | succ steps =>
      have hnext : ∀ specifier target name, library.load? m specifier = .ok (some target) →
          locateExport library steps target name = .ok (some location) → among location.module := by
        intro specifier target name hload hfound
        exact ih steps (Nat.lt_succ_self steps) target name location (himports m specifier target hm hload) hfound
      unfold locateExport at h
      split at h
      · cases h
        exact hm
      · split at h
        · refine locateWith_stays himports ?_ hm h
          intro target name location htarget hfound
          cases steps with
          | zero => cases hfound
          | succ steps => exact ih steps (by omega) target name location htarget hfound
        · obtain ⟨target, hload, hfound⟩ := inModule_eq_some h
          exact hnext _ target _ hload hfound
        · obtain ⟨specifier, -, hspecifier⟩ := mem_of_firstFound h
          obtain ⟨target, hload, hfound⟩ := inModule_eq_some hspecifier
          exact hnext specifier target name hload hfound

/-- A search from a module comes to modules only that are among those that are imported from it. -/
theorem locate_stays
    (himports : ∀ m specifier target, among m → library.load? m specifier = .ok (some target) → among target)
    {m : Module} {name : String} {location : Location} (hm : among m)
    (h : locate library m name = .ok (some location)) : among location.module :=
  locateWith_stays himports (locateExport_stays himports longestChain) hm h

end

/-! ## What a search depends on -/

theorem locateExport_congr {library library' : Library} (h : library.find? = library'.find?) (steps : Nat) :
    ∀ m name, locateExport library steps m name = locateExport library' steps m name := by
  have hload : ∀ m specifier, library.load? m specifier = library'.load? m specifier := by
    intro m specifier
    unfold Library.load?
    rw [h]
  have hmodule : ∀ {β : Type} m specifier (search : Module → Except Error (Option β)),
      inModule library m specifier search = inModule library' m specifier search := by
    intro β m specifier search
    unfold inModule
    rw [hload]
  -- An alias for a name of the module itself takes two steps at once.
  induction steps using Nat.strongRecOn with
  | ind steps ih =>
    intro m name
    cases steps with
    | zero => rfl
    | succ steps =>
      have hnext : locateExport library steps = locateExport library' steps := by
        funext target name
        exact ih steps (Nat.lt_succ_self steps) target name
      unfold locateExport
      simp only [locateWith, hmodule, hnext]
      cases steps with
      | zero => rfl
      | succ steps =>
        have hinner : locateExport library steps = locateExport library' steps := by
          funext target name
          exact ih steps (by omega) target name
        simp only [hinner]

/-- The size of a library does not matter for a search. -/
theorem locate_congr {library library' : Library} (h : library.find? = library'.find?) (m : Module)
    (name : String) : locate library m name = locate library' m name := by
  have hexport : locateExport library longestChain = locateExport library' longestChain := by
    funext target name
    exact locateExport_congr h longestChain target name
  have hload : ∀ specifier, library.load? m specifier = library'.load? m specifier := by
    intro specifier
    unfold Library.load?
    rw [h]
  unfold locate locateWith inModule
  rw [hexport]
  simp only [hload]

end ServiceStubs.Resolution
