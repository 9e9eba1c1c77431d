import ServiceStubs.Proofs.Resolution.Alike
import ServiceStubs.Proofs.Resolution.Phases

/-!
# Where declarations come from

Whatever stands in the table of declarations has been declared in a module, and its body is one that the
resolver has given to this declaration. Nothing has to be known about the modules for it.

* `Yields` says that a computation can give a value;
* `Sourced` says where a declaration comes from;
* `resolveNamed_maintains` is the step: entering a name keeps the sources of the table;
* `buildService_sourced` is the case of a service.
-/

namespace ServiceStubs.Resolution

open Source

variable {α β : Type}

/-! ## Values that computations can give -/

/-- From some table on, the computation gives the value. -/
def Yields (x : Resolve α) (a : α) : Prop :=
  ∃ t t', start x t = (.ok a, t')

theorem yields_pure {a b : α} : Yields (pure a) b ↔ a = b := by
  constructor
  · rintro ⟨t, t', h⟩
    cases h
    rfl
  · rintro rfl
    exact ⟨[], [], rfl⟩

theorem not_yields_throw {e : Error} {a : α} : ¬Yields (throw e) a := by
  rintro ⟨t, t', h⟩
  cases h

theorem Yields.bind {x : Resolve α} {f : α → Resolve β} {b : β} (h : Yields (x >>= f) b) :
    ∃ a, Yields x a ∧ Yields (f a) b := by
  obtain ⟨t, t', hrun⟩ := h
  rw [start_bind] at hrun
  rcases hx : start x t with ⟨r, middle⟩
  rw [hx] at hrun
  cases r with
  | ok a => exact ⟨a, ⟨t, middle, hx⟩, ⟨middle, t', hrun⟩⟩
  | error e => cases hrun

theorem yields_ofSearch {result : Except Error α} {a : α} : Yields (ofSearch result) a ↔ result = .ok a := by
  cases result with
  | ok found =>
    rw [Except.ok.injEq]
    exact yields_pure
  | error e => exact ⟨fun h => absurd h not_yields_throw, fun h => by cases h⟩

theorem Yields.mapM {f : α → Resolve β} {xs : List α} {ys : List β} (h : Yields (xs.mapM f) ys) :
    List.Forall₂ (fun x y => Yields (f x) y) xs ys := by
  induction xs generalizing ys with
  | nil =>
    obtain rfl := yields_pure.mp h
    exact .nil
  | cons x rest ih =>
    rw [List.mapM_cons] at h
    obtain ⟨first, hfirst, h⟩ := h.bind
    obtain ⟨others, hothers, h⟩ := h.bind
    obtain rfl := yields_pure.mp h
    exact .cons hfirst (ih hothers)

/-- What follows a computation is looked at only for what this one gives. -/
theorem Maintains.bind_yields {P : Table → Prop} {x : Resolve α} {f : α → Resolve β} (hx : Maintains P x)
    (hf : ∀ a, Yields x a → Maintains P (f a)) : Maintains P (x >>= f) := by
  intro t h
  have hfirst := hx t h
  rw [start_bind]
  rcases hs : start x t with ⟨r, t'⟩
  rw [hs] at hfirst
  cases r with
  | ok a => exact hf a ⟨t, t', hs⟩ t' hfirst
  | error e => exact hfirst

/-! ## Tables with a source -/

/-- The declaration is one of a module, with the body that a resolver of names gives it. -/
def Sourced (library : Library) (d : Declaration) : Prop :=
  ∃ owner found lenient budget, owner.definition? d.name = some found ∧ owner.modulePath = d.modulePath ∧
    Yields (definitionBody ⟨library, lenient⟩ (resolveNamed ⟨library, lenient⟩ budget) owner found.definition) d.body

/-- All declarations in the table come from modules. -/
def Table.Sourced (library : Library) (t : Table) : Prop :=
  ∀ s ∈ t, ∀ d, s.declaration = some d → Resolution.Sourced library d

variable {library : Library}

theorem Table.Sourced.claim {t : Table} (h : t.Sourced library) (key : DeclKey) (kind : DeclKind) :
    (t.claim key kind).Sourced library := by
  intro s hs d hd
  rcases List.mem_append.mp hs with hs | hs
  · exact h s hs d hd
  · rw [List.mem_singleton] at hs
    subst hs
    cases hd

theorem Table.Sourced.finish {t : Table} (h : t.Sourced library) {declaration : Declaration}
    (hsourced : Resolution.Sourced library declaration) : (t.finish declaration).Sourced library := by
  intro s hs d hd
  obtain ⟨before, hbefore, rfl⟩ := List.mem_map.mp hs
  split at hd
  · cases hd
    exact hsourced
  · exact h before hbefore d hd

theorem Table.Sourced.dropUnfinished {t : Table} (h : t.Sourced library) : t.dropUnfinished.Sourced library :=
  fun s hs => h s (List.mem_filter.mp hs).1

/-- The computation keeps the sources of the table. -/
def KeepsSourced (library : Library) (α : Type) (x _ : Resolve α) : Prop :=
  Maintains (Table.Sourced library) x

theorem keepsSourced_stepwise (library : Library) : Stepwise (KeepsSourced library) := by
  refine ⟨.pure, .throw, .bind, fun {_ _ result} _ _ h => ?_⟩
  cases result with
  | ok a => exact h a rfl
  | error e => exact .throw e

/-- A name enters its declaration, with what the resolver makes of it. -/
theorem resolveNamed_maintains (lenient : Bool) (budget : Nat) (m : Module) (name : String) :
    Maintains (Table.Sourced library) (resolveNamed ⟨library, lenient⟩ budget m name) := by
  have hsearch : ∀ result : Except Error DataType, Maintains (Table.Sourced library) (ofSearch result) :=
    (keepsSourced_stepwise library).ofSearch
  induction budget generalizing m name with
  | zero => exact hsearch _
  | succ budget ih =>
    have hget : Maintains (Table.Sourced library) (get : Resolve Table) := fun _ h => h
    unfold resolveNamed resolveWith
    refine (keepsSourced_stepwise library).search (g := fun _ => pure .any) fun found _ => ?_
    cases found with
    | none => exact hsearch _
    | some location =>
      refine hget.bind fun t => ?_
      dsimp only
      split
      · exact .pure _
      · exact hsearch _
      · -- Only here something is added to the table: the body that the definition has with a smaller budget.
        rename_i found hfresh hfound
        have halike : Alike (KeepsSourced library) (fun _ => True) ⟨library, lenient⟩ ⟨library, lenient⟩
            (resolveNamed ⟨library, lenient⟩ budget) (resolveNamed ⟨library, lenient⟩ budget) :=
          { names := fun m _ => ⟨rfl, fun name => ih m name⟩
            same := fun _ _ _ => rfl
            stays := fun _ _ _ _ _ => trivial }
        let body := definitionBody ⟨library, lenient⟩ (resolveNamed ⟨library, lenient⟩ budget) location.module
          found.definition
        have hbody : KeepsSourced library _ body body :=
          definitionBody_related (keepsSourced_stepwise library) halike trivial found.definition
        have hclaim : Maintains (Table.Sourced library) (modify fun t : Table =>
            t.claim ⟨location.name, location.module.modulePath⟩ (kindOf found.definition) : Resolve PUnit) :=
          fun t h => h.claim _ _
        refine hclaim.bind fun _ => Maintains.bind_yields hbody fun body hyields => ?_
        have hfinish : Maintains (Table.Sourced library) (modify fun t : Table =>
            t.finish ⟨location.name, location.module.modulePath, body, found.docs⟩ : Resolve PUnit) :=
          fun t h => h.finish ⟨location.module, found, lenient, budget, hfound, rfl, hyields⟩
        exact hfinish.bind fun _ => .pure _

/-- The methods of a class keep the sources of the table, also those whose signature is given up. -/
theorem classMethods_maintains (m : Module) (c : ExportedClass) (candidates : List Candidate) :
    Maintains (Table.Sourced library) (classMethods library m c candidates) := by
  have hnames : ∀ lenient, NamesRelated (KeepsSourced library) (Scope.resolve ⟨library, lenient⟩)
      (Scope.resolve ⟨library, lenient⟩) m m := fun lenient =>
    ⟨rfl, fun name => resolveNamed_maintains lenient _ m name⟩
  have hdrop : Maintains (Table.Sourced library) (modify Table.dropUnfinished : Resolve PUnit) :=
    fun t h => h.dropUnfinished
  have hlenient : ∀ candidate, KeepsSourced library _ (lenientSignature library m c candidate)
      (lenientSignature library m c candidate) := by
    intro candidate
    have hsignature : KeepsSourced library _ (signature ⟨library, true⟩ m c candidate)
        (signature ⟨library, true⟩ m c candidate) :=
      signature_related (keepsSourced_stepwise library) (hnames true) rfl rfl candidate
    exact Maintains.tryCatch hsignature fun _ => hdrop.bind fun _ => .pure _
  have hmethods : KeepsSourced library _ (classMethods library m c candidates)
      (classMethods library m c candidates) :=
    classMethods_related (keepsSourced_stepwise library) (hnames false) hlenient candidates
  exact hmethods

/-- All declarations of a service come from modules. -/
theorem buildService_sourced {exposure : String → ClassExposure} {r : BuildRequest} {s : Service}
    (h : buildService library exposure r = .ok s) :
    ∃ m, Module.read r.path r.text = .ok m ∧ ∀ d ∈ s.declarations, Sourced (library.insert m) d := by
  obtain ⟨m, c, hread, -, h⟩ := classService_of_build h
  refine ⟨m, hread, ?_⟩
  obtain ⟨cs, -, h⟩ := bind_eq_ok_iff.mp h
  have hrun : Table.Sourced (library.insert m) ((classMethods (library.insert m) m c cs).run.run []).2 :=
    classMethods_maintains m c cs [] fun s hs => by cases hs
  obtain ⟨methods, hmethods, h⟩ := bind_eq_ok_iff.mp h
  cases h
  intro d hd
  obtain ⟨slot, hslot, hdeclaration⟩ := List.mem_filterMap.mp hd
  exact hrun slot hslot d hdeclaration

end ServiceStubs.Resolution
