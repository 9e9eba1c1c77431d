import ServiceStubs.Proofs.Resolution.Watch

/-!
# Every build ends

Declarations may refer to each other in circles, modules may import each other in circles, and interfaces may
extend themselves. Still every build ends: a declaration claims its place before its body is looked at, so
that no more declarations can be on their way than the library has.

* `Shadows` is what is left of `Resembles` when the budget is large enough for the whole library;
* `watchedMethods_shadows` is the case of a class, with signatures that are given up;
* `watchedBuild_answers` says that an answer does not change with a larger budget;
* `buildService_terminates` says that there is one, and how often declarations are looked at.
-/

namespace ServiceStubs.Resolution

open Source

variable {library : Library}

/-! ## Whole classes -/

/-- The watched computation has an answer, and it is that of the other one, with the same table. -/
def Shadows (library : Library) (α : Type) (x : Resolve α) (y : Watched α) : Prop :=
  ∀ n : Notes, n.Fair library →
    ∃ r n', watch y n = some (r, n') ∧ start x n.table = (r, n'.table) ∧ n'.Fair library

theorem Resembles.shadows {budget : Nat} (hbudget : library.size < budget) {α : Type} {x : Resolve α}
    {y : Watched α} (h : Resembles library budget α x y) : Shadows library α x y := by
  intro n hn
  obtain ⟨r, n', hwatch, hstart, hn', -⟩ := h n hn (by omega)
  exact ⟨r, n', hwatch, hstart, hn'⟩

theorem shadows_stepwise (library : Library) : Stepwise (Shadows library) := by
  constructor
  · exact fun a n hn => ⟨.ok a, n, rfl, rfl, hn⟩
  · exact fun e n hn => ⟨.error e, n, rfl, rfl, hn⟩
  · intro α β x y f g hx hf n hn
    obtain ⟨r, n', hwatch, hstart, hn'⟩ := hx n hn
    rw [watch_bind, start_bind, hwatch, hstart]
    cases r with
    | error e => exact ⟨.error e, n', rfl, rfl, hn'⟩
    | ok a => exact hf a n' hn'
  · intro α β result f g h n hn
    cases result with
    | ok a => exact h a rfl n hn
    | error e => exact ⟨.error e, n, rfl, rfl, hn⟩

/-- The names that a module mentions have watched meanings. -/
theorem watchedResolve_shadows (hbounded : library.Bounded) (lenient : Bool) {budget : Nat}
    (hbudget : library.size < budget) {m : Module} (hm : library.Has m) :
    NamesRelated (Shadows library) (Scope.resolve ⟨library, lenient⟩)
      (watchedResolve ⟨library, lenient⟩ budget) m m :=
  ⟨rfl, fun name => (watchedResolve_resembles hbounded lenient hbudget m name hm).shadows (Nat.lt_succ_self _)⟩

/-- A signature that cannot be resolved is given up in both computations. -/
theorem lenientSignature_shadows (hbounded : library.Bounded) {budget : Nat} (hbudget : library.size < budget)
    {m : Module} (hm : library.Has m) (c : ExportedClass) (candidate : Candidate) :
    Shadows library _ (lenientSignature library m c candidate)
      (lenientSignatureWith (watchedResolve ⟨library, true⟩ budget) noteGivenUp m c candidate) := by
  intro n hn
  have hsignature := signature_related (shadows_stepwise library)
    (watchedResolve_shadows hbounded true hbudget hm) (c := c) rfl rfl candidate
  obtain ⟨r, n', hwatch, hstart, hn'⟩ := hsignature n hn
  unfold lenientSignature lenientSignatureWith
  rw [watch_tryCatch, start_tryCatch, hwatch, hstart]
  cases r with
  | ok method => exact ⟨.ok method, n', rfl, rfl, hn'⟩
  | error e => exact ⟨.ok (untyped candidate), _, rfl, rfl, hn'.giveUp⟩

theorem watchedMethods_shadows (hbounded : library.Bounded) {budget : Nat} (hbudget : library.size < budget)
    {m : Module} (hm : library.Has m) (c : ExportedClass) (candidates : List Candidate) :
    Shadows library _ (classMethods library m c candidates) (watchedMethods library budget m c candidates) :=
  classMethods_related (shadows_stepwise library) (watchedResolve_shadows hbounded false hbudget hm)
    (lenientSignature_shadows hbounded hbudget hm c) candidates

/-! ## Larger budgets -/

/-- Whatever answer the first computation has, the second one has too. -/
def Answers (α : Type) (x y : Watched α) : Prop :=
  ∀ n answer, watch x n = some answer → watch y n = some answer

theorem answers_refl {α : Type} (x : Watched α) : Answers α x x :=
  fun _ _ h => h

theorem answers_stepwise : Stepwise Answers := by
  constructor
  · exact fun a => answers_refl _
  · exact fun e => answers_refl _
  · intro α β x y f g hx hf n answer h
    rw [watch_bind] at h ⊢
    rcases hwatch : watch x n with _ | ⟨r, n'⟩
    · rw [hwatch] at h
      cases h
    · rw [hx n _ hwatch]
      rw [hwatch] at h
      cases r with
      | error e => exact h
      | ok a => exact hf a n' answer h
  · intro α β result f g h
    cases result with
    | ok a => exact h a rfl
    | error e => exact answers_refl _

theorem watchedResolve_answers (scope : Scope) {budget budget' : Nat} (hle : budget ≤ budget') :
    ∀ m name, Answers _ (watchedResolve scope budget m name) (watchedResolve scope budget' m name) := by
  induction budget generalizing budget' with
  | zero =>
    intro m name n answer h
    cases h
  | succ budget ih =>
    obtain ⟨budget', rfl⟩ : ∃ smaller, budget' = smaller + 1 := ⟨budget' - 1, by omega⟩
    have halike : Alike Answers (fun _ => True) scope scope (watchedResolve scope budget)
        (watchedResolve scope budget') :=
      { names := fun m _ => ⟨rfl, fun name => ih (by omega) m name⟩
        same := fun _ _ _ => rfl
        stays := fun _ _ _ _ _ => trivial }
    refine resolveWith_related answers_stepwise (answers_refl _) (fun _ => answers_refl _) scope ?_
    intro location found
    refine answers_stepwise.bind (answers_refl _) fun _ => ?_
    exact definitionBody_related answers_stepwise halike trivial found

theorem watchedMethods_answers (library : Library) {budget budget' : Nat} (hle : budget ≤ budget') (m : Module)
    (c : ExportedClass) (candidates : List Candidate) :
    Answers _ (watchedMethods library budget m c candidates) (watchedMethods library budget' m c candidates) := by
  have hnames : ∀ lenient, NamesRelated Answers (watchedResolve ⟨library, lenient⟩ budget)
      (watchedResolve ⟨library, lenient⟩ budget') m m :=
    fun lenient => ⟨rfl, watchedResolve_answers _ hle m⟩
  refine classMethods_related answers_stepwise (hnames false) ?_ candidates
  intro candidate n answer h
  have hsignature := signature_related answers_stepwise (hnames true) (c := c) rfl rfl candidate
  unfold lenientSignatureWith at h ⊢
  rw [watch_tryCatch] at h ⊢
  rcases hwatch : watch (signatureWith (watchedResolve ⟨library, true⟩ budget) m c candidate) n with _ | ⟨r, n'⟩
  · rw [hwatch] at h
    cases h
  · rw [hsignature n _ hwatch]
    rw [hwatch] at h
    exact h

/-- An answer does not change when the budget gets larger. -/
theorem watchedBuild_answers {library : Library} {exposure : String → ClassExposure} {budget budget' : Nat}
    {r : BuildRequest} {answer : Except Error Service × Notes}
    (h : watchedBuild library exposure budget r = some answer) (hle : budget ≤ budget') :
    watchedBuild library exposure budget' r = some answer := by
  unfold watchedBuild at h ⊢
  split at h
  · exact h
  · split at h
    · rename_i c _
      unfold watchedClass at h ⊢
      split at h
      · exact h
      · obtain ⟨result, hwatch, rfl⟩ := Option.map_eq_some_iff.mp h
        rw [watchedMethods_answers _ hle _ c _ _ _ hwatch]
        rfl
    · exact h

/-! ## Builds -/

/-- The service of a class that is watched with a budget for all statements is the one that it has
unwatched. -/
theorem watchedClass_eq (hbounded : library.Bounded) (exposure : String → String → Exposure) (m : Module)
    (c : ExportedClass) :
    ∃ n, watchedClass library exposure ((library.insert m).size + 1) m c =
        some (classService library exposure m c, n) ∧
      ∀ key, n.opened.count key ≤ n.givenUp + 1 := by
  unfold watchedClass classService
  rcases candidates m.path c.name (exposure c.name) c.body.members with e | methods
  · exact ⟨.blank, rfl, by simp [Notes.blank]⟩
  · obtain ⟨r, n, hwatch, hstart, hn⟩ := watchedMethods_shadows (hbounded.insert m) (Nat.lt_succ_self _)
      (Library.has_insert library m) c methods .blank (Notes.fair_blank _)
    have hrun : (classMethods (library.insert m) m c methods).run.run [] = (r, n.table) := hstart
    refine ⟨n, ?_, ?_⟩
    · dsimp only [bind, Except.bind]
      rw [hwatch, hrun]
      cases r with
      | error e => rfl
      | ok result => rfl
    · intro key
      have hcounted := hn.counted key
      split at hcounted <;> omega

/-- Every build of a class of any source file, among any files, with any exposure of methods, ends: watched
with every budget that is large enough it has an answer, the same notes for all of them, and the answer is
that of the build. In the notes no declaration has been looked at more often than signatures have been given
up, and once more. -/
theorem buildService_terminates (files : List (String × String)) (exposure : String → ClassExposure)
    (r : BuildRequest) :
    ∃ enough n,
      (∀ budget, enough ≤ budget → watchedBuild (.ofFiles files) exposure budget r =
        some (buildService (.ofFiles files) exposure r, n)) ∧
      (∀ key, n.opened.count key ≤ n.givenUp + 1) ∧
      (n.givenUp = 0 → n.opened.Nodup) := by
  have hbounded : (Library.ofFiles files).Bounded := (serves_ofFiles files).bounded
  -- One budget is enough, since larger ones give the same answer.
  suffices h : ∃ enough n,
      watchedBuild (.ofFiles files) exposure enough r = some (buildService (.ofFiles files) exposure r, n) ∧
      ∀ key, n.opened.count key ≤ n.givenUp + 1 by
    obtain ⟨enough, n, hbuild, hcounted⟩ := h
    refine ⟨enough, n, fun budget hle => watchedBuild_answers hbuild hle, hcounted, ?_⟩
    intro hnone
    rw [List.nodup_iff_count_le_one]
    intro key
    have hkey := hcounted key
    rwa [hnone, Nat.zero_add] at hkey
  rcases hread : Module.read r.path r.text with e | m
  · refine ⟨0, .blank, ?_, by simp [Notes.blank]⟩
    simp only [watchedBuild, buildService, hread]
    rfl
  · rcases hclass : r.wantedClass? m with _ | c
    · refine ⟨0, .blank, ?_, by simp [Notes.blank]⟩
      simp only [watchedBuild, buildService, hread, bind, Except.bind, hclass]
      rfl
    · obtain ⟨n, heq, hcounted⟩ := watchedClass_eq hbounded (fun name => (exposure name).method) m c
      refine ⟨((Library.ofFiles files).insert m).size + 1, n, ?_, hcounted⟩
      simp only [watchedBuild, buildService, hread, bind, Except.bind, hclass]
      exact heq

end ServiceStubs.Resolution
