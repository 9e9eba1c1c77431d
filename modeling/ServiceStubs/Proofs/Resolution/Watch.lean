import ServiceStubs.Build
import ServiceStubs.Proofs.Resolution.Tracking

/-!
# Watching a build

The resolver of names takes a name for unknown when its budget is used up. A watched build takes the same
steps, but has no answer in this case, and makes notes: of each declaration whose body is looked at, and of
each signature that is given up.

* `Watched` are computations that make notes and may have no answer;
* `watchedResolve` is the resolver of names, and `watchedBuild` the build;
* `Resembles` says that a watched computation has an answer and that it is that of another one;
* `watchedResolve_resembles` is the case of a name, by induction on the budget.
-/

namespace ServiceStubs.Resolution

open Source

/-! ## Notes -/

/-- The table of declarations, the keys of the declarations whose bodies have been looked at, as often as
they have been, and the number of signatures that have been given up. -/
structure Notes where
  table : Table
  opened : List DeclKey
  givenUp : Nat

/-- The notes at the beginning. -/
def Notes.blank : Notes := ⟨[], [], 0⟩

/-- A computation that makes notes. It may fail, or have no answer at all. -/
abbrev Watched := ExceptT Error (StateT Notes Option)

instance : MonadStateOf Table Watched where
  get := Notes.table <$> getThe Notes
  set table := modifyThe Notes fun n => { n with table := table }
  modifyGet f := modifyGetThe Notes fun n => ((f n.table).1, { n with table := (f n.table).2 })

/-- The answer from some notes on, and the notes that it leaves. -/
def watch {α : Type} (x : Watched α) (n : Notes) : Option (Except Error α × Notes) :=
  x.run.run n

/-- A computation without an answer. -/
def noAnswer {α : Type} : Watched α :=
  ExceptT.mk fun _ => none

/-- Notes that the body of a declaration is looked at. -/
def noteOpened (key : DeclKey) : Watched Unit :=
  modifyThe Notes fun n => { n with opened := n.opened ++ [key] }

/-- Drops what has not been finished, and notes that a signature is given up. -/
def noteGivenUp : Watched Unit :=
  modifyThe Notes fun n => { n with table := n.table.dropUnfinished, givenUp := n.givenUp + 1 }

/-! ## The build -/

/-- The meaning of a name as seen from a module. There is no answer if more declarations than the budget says
are met inside of each other. -/
def watchedResolve (scope : Scope) : Nat → NameResolver Watched
  | 0 => fun _ _ => noAnswer
  | budget + 1 =>
    resolveWith scope fun location found => do
      noteOpened ⟨location.name, location.module.modulePath⟩
      definitionBody scope (watchedResolve scope budget) location.module found

/-- The methods of a class with their types. -/
def watchedMethods (library : Library) (budget : Nat) :
    Module → ExportedClass → List Candidate → Watched (List Method) :=
  classMethodsWith (watchedResolve ⟨library, false⟩ budget) (watchedResolve ⟨library, true⟩ budget) noteGivenUp

/-- The service of a class, and the notes about it. -/
def watchedClass (library : Library) (exposure : String → String → Exposure) (budget : Nat) (m : Module)
    (c : ExportedClass) : Option (Except Error Service × Notes) :=
  match candidates m.path c.name (exposure c.name) c.body.members with
  | .error e => some (.error e, .blank)
  | .ok methods =>
    (watch (watchedMethods (library.insert m) budget m c methods) .blank).map fun (result, n) =>
      (result.map fun methods =>
        ⟨m.language, m.modulePath, ⟨c.name, methods, c.docs⟩, n.table.declarations⟩, n)

/-- The service that a request asks for, and the notes about it. -/
def watchedBuild (library : Library) (exposure : String → ClassExposure) (budget : Nat) (r : BuildRequest) :
    Option (Except Error Service × Notes) :=
  match Module.read r.path r.text with
  | .error e => some (.error e, .blank)
  | .ok m =>
    match r.wantedClass? m with
    | some c => watchedClass library (fun name => (exposure name).method) budget m c
    | none => some (.error (.noExposedClass r.path), .blank)

/-! ## Running what is watched -/

section

variable {α β : Type}

@[simp] theorem watch_pure (a : α) (n : Notes) : watch (pure a) n = some (.ok a, n) := rfl

@[simp] theorem watch_throw (e : Error) (n : Notes) : watch (throw e : Watched α) n = some (.error e, n) := rfl

theorem watch_bind (x : Watched α) (f : α → Watched β) (n : Notes) :
    watch (x >>= f) n =
      match watch x n with
      | some (.ok a, n') => watch (f a) n'
      | some (.error e, n') => some (.error e, n')
      | none => none := by
  show StateT.run (ExceptT.run (x >>= f)) n = _
  rw [ExceptT.run_bind, StateT.run_bind]
  rcases hx : watch x n with _ | ⟨r, n'⟩
  · have hrun : StateT.run (ExceptT.run x) n = none := hx
    rw [hrun]
    rfl
  · have hrun : StateT.run (ExceptT.run x) n = some (r, n') := hx
    rw [hrun]
    cases r with
    | ok a => rfl
    | error e => rfl

theorem watch_tryCatch (x : Watched α) (f : Error → Watched α) (n : Notes) :
    watch (tryCatch x f) n =
      match watch x n with
      | some (.ok a, n') => some (.ok a, n')
      | some (.error e, n') => watch (f e) n'
      | none => none := by
  unfold watch
  simp only [tryCatch, tryCatchThe, MonadExceptOf.tryCatch, ExceptT.tryCatch, ExceptT.run_mk, StateT.run_bind]
  rcases hx : StateT.run (ExceptT.run x) n with _ | ⟨r, n'⟩
  · have hrun : StateT.run x n = none := hx
    rw [hrun]
    rfl
  · have hrun : StateT.run x n = some (r, n') := hx
    rw [hrun]
    cases r with
    | ok a => rfl
    | error e => rfl

theorem watch_get (f : Table → Watched β) (n : Notes) : watch (get >>= f) n = watch (f n.table) n := rfl

theorem watch_modify (f : Table → Table) (n : Notes) :
    watch (modify f) n = some (.ok PUnit.unit, { n with table := f n.table }) := rfl

theorem watch_noteOpened (key : DeclKey) (n : Notes) :
    watch (noteOpened key) n = some (.ok PUnit.unit, { n with opened := n.opened ++ [key] }) := rfl

end

/-! ## What the notes say -/

/-- No key has two places in the table, and all places are for declarations of modules that the library has.
A declaration without a place has been opened once for each signature that was given up, at most, and one
with a place once more. -/
structure Notes.Fair (library : Library) (n : Notes) : Prop where
  distinct : (n.table.map (·.key)).Nodup
  owned : ∀ key ∈ n.table.map (·.key), ∃ owner, library.Has owner ∧ (owner.definition? key.name).isSome ∧
    owner.modulePath = key.modulePath
  counted : ∀ key, n.opened.count key ≤ n.givenUp + if (n.table.kind? key).isSome then 1 else 0

variable {library : Library} {n : Notes}

theorem Notes.fair_blank (library : Library) : Notes.blank.Fair library :=
  ⟨List.nodup_nil, by simp [Notes.blank], by simp [Notes.blank]⟩

/-- The places that are claimed are no more than the library has declarations. -/
theorem Notes.Fair.unfinished_le (h : n.Fair library) (hbounded : library.Bounded) :
    n.table.unfinished ≤ library.size := by
  have hlength : n.table.length ≤ library.size := by
    simpa using hbounded.length_le h.distinct h.owned
  exact le_trans List.countP_le_length hlength

/-- A declaration that has no place yet can claim one and be opened. -/
theorem Notes.Fair.claim (h : n.Fair library) {owner : Module} (howner : library.Has owner) {name : String}
    (hdefined : (owner.definition? name).isSome) (hfresh : n.table.kind? ⟨name, owner.modulePath⟩ = none)
    (kind : DeclKind) :
    Notes.Fair library { n with
      table := n.table.claim ⟨name, owner.modulePath⟩ kind
      opened := n.opened ++ [⟨name, owner.modulePath⟩] } := by
  refine ⟨Table.nodup_claim h.distinct hfresh kind, ?_, ?_⟩
  · intro key hkey
    unfold Table.claim at hkey
    rw [List.map_append] at hkey
    rcases List.mem_append.mp hkey with hkey | hkey
    · exact h.owned key hkey
    · rw [List.map_singleton, List.mem_singleton] at hkey
      subst hkey
      exact ⟨owner, howner, hdefined, rfl⟩
  · intro key
    have hcounted := h.counted key
    unfold Table.claim
    rw [List.count_append, Table.kind?_append]
    -- Only the count of the claimed key changes, and that key had no place before.
    by_cases hkey : (⟨name, owner.modulePath⟩ : DeclKey) = key
    · subst hkey
      rw [hfresh] at hcounted ⊢
      simpa [Table.kind?] using hcounted
    · rw [List.count_singleton, if_neg (by simpa using hkey)]
      cases hkind : n.table.kind? key with
      | none =>
        rw [hkind] at hcounted
        simp at hcounted
        dsimp only
        omega
      | some kind' =>
        rw [hkind] at hcounted
        simpa using hcounted

/-- A declaration can take the place that it has claimed. -/
theorem Notes.Fair.fill {key : DeclKey} {kind : DeclKind} {t new : Table}
    (h : Notes.Fair library { n with table := t.claim key kind ++ new }) (d : Declaration) :
    Notes.Fair library { n with table := t ++ ⟨key, kind, some d⟩ :: new } := by
  have hkeys : (t ++ ⟨key, kind, some d⟩ :: new : Table).map (·.key) =
      (t.claim key kind ++ new).map (·.key) := by
    simp [Table.claim]
  refine ⟨hkeys ▸ h.distinct, hkeys ▸ h.owned, ?_⟩
  intro k
  have hcounted := h.counted k
  rwa [← Table.kind?_fill t new key kind d k] at hcounted

/-- Whatever has been opened may be opened again when a signature is given up. -/
theorem Notes.Fair.giveUp (h : n.Fair library) :
    Notes.Fair library { n with table := n.table.dropUnfinished, givenUp := n.givenUp + 1 } := by
  have hsublist : (n.table.dropUnfinished.map (·.key)).Sublist (n.table.map (·.key)) :=
    List.filter_sublist.map _
  refine ⟨h.distinct.sublist hsublist, fun key hkey => h.owned key (hsublist.subset hkey), ?_⟩
  intro key
  have hcounted := h.counted key
  dsimp only
  split at hcounted <;> omega

/-! ## Watched computations and those that are watched -/

/-- As long as the budget and the places that are claimed exceed what the library declares, the watched
computation has an answer, and it is that of the other one, with the same table. -/
def Resembles (library : Library) (budget : Nat) (α : Type) (x : Resolve α) (y : Watched α) : Prop :=
  ∀ n : Notes, n.Fair library → library.size < budget + n.table.unfinished →
    ∃ r n', watch y n = some (r, n') ∧ start x n.table = (r, n'.table) ∧ n'.Fair library ∧
      ∀ a, r = .ok a → n.table.GrowsTo n'.table

theorem resembles_pure {budget : Nat} {α : Type} (a : α) : Resembles library budget α (pure a) (pure a) :=
  fun n hn _ => ⟨.ok a, n, rfl, rfl, hn, fun _ _ => .refl _⟩

theorem resembles_throw {budget : Nat} {α : Type} (e : Error) :
    Resembles library budget α (throw e) (throw e) :=
  fun n hn _ => ⟨.error e, n, rfl, rfl, hn, by simp⟩

theorem resembles_stepwise (library : Library) (budget : Nat) : Stepwise (Resembles library budget) := by
  constructor
  · exact fun a => resembles_pure a
  · exact fun e => resembles_throw e
  · intro α β x y f g hx hf n hn hbudget
    obtain ⟨r, n', hwatch, hstart, hn', hgrows⟩ := hx n hn hbudget
    rw [watch_bind, start_bind, hwatch, hstart]
    cases r with
    | error e => exact ⟨.error e, n', rfl, rfl, hn', by simp⟩
    | ok a =>
      have hbudget' : library.size < budget + n'.table.unfinished := by
        rw [Table.unfinished_of_growsTo (hgrows a rfl)]
        exact hbudget
      obtain ⟨r', n'', hwatch', hstart', hn'', hgrows'⟩ := hf a n' hn' hbudget'
      exact ⟨r', n'', hwatch', hstart', hn'', fun b hb => (hgrows a rfl).trans (hgrows' b hb)⟩
  · intro α β result f g h
    cases result with
    | ok a => exact h a rfl
    | error e => exact resembles_throw e

/-- Entering a declaration: it claims its place and is opened, its body is resolved and it takes the place. -/
theorem enterDeclaration_resembles {budget : Nat} {body : Resolve DeclBody} {body' : Watched DeclBody}
    (hbody : Resembles library budget _ body body') {owner : Module} (howner : library.Has owner)
    {name : String} (hdefined : (owner.definition? name).isSome) (kind : DeclKind) (docs : Option String)
    (hn : n.Fair library) (hfresh : n.table.kind? ⟨name, owner.modulePath⟩ = none)
    (hbudget : library.size < budget + 1 + n.table.unfinished) :
    ∃ r n', watch
        (do
          modify fun t => t.claim ⟨name, owner.modulePath⟩ kind
          let body ← noteOpened ⟨name, owner.modulePath⟩ >>= fun _ => body'
          modify fun t => t.finish ⟨name, owner.modulePath, body, docs⟩
          return DataType.named ⟨name, owner.modulePath, kind⟩) n = some (r, n') ∧
      start
        (do
          modify fun t => t.claim ⟨name, owner.modulePath⟩ kind
          let body ← body
          modify fun t => t.finish ⟨name, owner.modulePath, body, docs⟩
          return DataType.named ⟨name, owner.modulePath, kind⟩) n.table = (r, n'.table) ∧
      n'.Fair library ∧ ∀ a, r = .ok a → n.table.GrowsTo n'.table := by
  let key : DeclKey := ⟨name, owner.modulePath⟩
  have hclaim := hn.claim howner hdefined hfresh kind
  -- The place that is claimed makes up for what is taken from the budget.
  have hrest : library.size < budget + (n.table.claim key kind).unfinished := by
    rw [Table.unfinished_claim]
    omega
  obtain ⟨r, n', hwatch, hstart, hn', hgrows⟩ := hbody _ hclaim hrest
  have hstart' : start body (n.table.claim key kind) = (r, n'.table) := hstart
  have hmodify : ∀ (f : Table → Table) (t : Table), start (modify f : Resolve PUnit) t = (.ok PUnit.unit, f t) :=
    fun _ _ => rfl
  rw [watch_bind, watch_modify]
  dsimp only
  rw [watch_bind, watch_bind, watch_noteOpened]
  dsimp only
  rw [hwatch, start_bind, hmodify]
  dsimp only
  rw [start_bind, hstart']
  cases r with
  | error e => exact ⟨.error e, n', rfl, rfl, hn', by simp⟩
  | ok body =>
    obtain ⟨new, htable, hnew⟩ := hgrows body rfl
    have hdistinct := hn'.distinct
    rw [htable] at hdistinct
    have hfinish : n'.table.finish ⟨name, owner.modulePath, body, docs⟩ =
        n.table ++ ⟨key, kind, some ⟨name, owner.modulePath, body, docs⟩⟩ :: new := by
      rw [htable]
      exact Table.finish_claimed hdistinct
    refine ⟨.ok _, { n' with table := n'.table.finish ⟨name, owner.modulePath, body, docs⟩ }, rfl, rfl, ?_, ?_⟩
    · rw [hfinish]
      refine Notes.Fair.fill ?_ _
      obtain ⟨table, opened, givenUp⟩ := n'
      cases htable
      exact hn'
    · rintro _ -
      refine ⟨_, hfinish, ?_⟩
      intro s hs
      rcases List.mem_cons.mp hs with rfl | hs
      · rfl
      · exact hnew s hs

/-- A search stays among the modules that the library has. -/
theorem has_of_locate (hbounded : library.Bounded) {m : Module} {name : String} {location : Location}
    (hm : library.Has m) (h : locate library m name = .ok (some location)) : library.Has location.module :=
  locate_stays (fun _ _ _ _ hload => (hbounded.has_of_load? hload).1) hm h

/-- A watched name has a meaning, however large the budget is, and it is the one that it has unwatched. -/
theorem watchedResolve_resembles (hbounded : library.Bounded) (lenient : Bool) {budget budget' : Nat}
    (hle : budget ≤ budget') :
    ∀ m name, library.Has m → Resembles library budget _ (resolveNamed ⟨library, lenient⟩ budget m name)
      (watchedResolve ⟨library, lenient⟩ budget' m name) := by
  induction budget generalizing budget' with
  | zero =>
    -- All declarations of the library would be on their way.
    intro m name _ n hn hbudget
    have hle := hn.unfinished_le hbounded
    omega
  | succ budget ih =>
    obtain ⟨budget', rfl⟩ : ∃ smaller, budget' = smaller + 1 := ⟨budget' - 1, by omega⟩
    intro m name hm
    have hsteps := resembles_stepwise library (budget + 1)
    unfold resolveNamed watchedResolve resolveWith
    refine hsteps.search fun found hlocate => ?_
    cases found with
    | none => exact hsteps.ofSearch _
    | some location =>
      have howner : library.Has location.module := has_of_locate hbounded hm hlocate
      intro n hn hbudget
      dsimp only
      rw [watch_get]
      have hget : ∀ f : Table → Resolve DataType, start (get >>= f) n.table = start (f n.table) n.table :=
        fun _ => rfl
      rw [hget]
      split
      · exact resembles_pure _ n hn hbudget
      · exact hsteps.ofSearch _ n hn hbudget
      · rename_i found hfresh hfound
        have halike : Alike (Resembles library budget) library.Has ⟨library, lenient⟩ ⟨library, lenient⟩
            (resolveNamed ⟨library, lenient⟩ budget) (watchedResolve ⟨library, lenient⟩ budget') :=
          { names := fun m hm => ⟨rfl, fun name => ih (by omega) m name hm⟩
            same := fun _ _ _ => rfl
            stays := fun m name location hm h => has_of_locate hbounded hm h }
        have hbody := definitionBody_related (resembles_stepwise library budget) halike howner found.definition
        exact enterDeclaration_resembles hbody howner (by rw [hfound]; rfl) _ _ hn hfresh hbudget

end ServiceStubs.Resolution
