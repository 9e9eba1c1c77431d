import Mathlib.Data.List.Forall2
import ServiceStubs.Build
import ServiceStubs.Proofs.Resolution.References

/-!
# The two phases of a class

The methods that clients have are resolved first, then the others one by one. The first phase is the
same as if there were no other methods. The second one cannot fail: where a signature cannot be resolved,
the places that it left empty are dropped and a method without types stands in for it.

* `start_classMethods` splits the computation into the phases;
* `others` is the second phase as a function of the table;
* `others_heads` says that every method keeps its name, exposure and documentation.
-/

namespace ServiceStubs.Resolution

open Source

/-! ## The first phase -/

/-- Whether clients have the method. -/
def Candidate.isCallable (candidate : Candidate) : Bool :=
  candidate.exposure.isCallable

/-- The methods that clients have, resolved one after the other. -/
def callableMethods (library : Library) (m : Module) (c : ExportedClass) (candidates : List Candidate) :
    Resolve (List Method) :=
  (candidates.filter Candidate.isCallable).mapM (signature ⟨library, false⟩ m c)

/-- Candidates beside their methods, for those that clients have. -/
def assigned : List Candidate → List Method → List (Candidate × Option Method)
  | [], _ => []
  | candidate :: rest, methods =>
    if candidate.isCallable then (candidate, methods.head?) :: assigned rest methods.tail
    else (candidate, none) :: assigned rest methods

theorem start_mapM_cons {α β : Type} (f : α → Resolve β) (a : α) (rest : List α) (t : Table) :
    start ((a :: rest).mapM f) t =
      match start (f a) t with
      | (.error e, t') => (.error e, t')
      | (.ok b, t') =>
        match start (rest.mapM f) t' with
        | (.error e, t'') => (.error e, t'')
        | (.ok others, t'') => (.ok (b :: others), t'') := by
  rw [List.mapM_cons, start_bind]
  rcases start (f a) t with ⟨r, t'⟩
  cases r with
  | error e => rfl
  | ok b =>
    dsimp only
    rw [start_bind]
    rcases start (rest.mapM f) t' with ⟨r, t''⟩
    cases r with
    | error e => rfl
    | ok others => rfl

/-- Methods that clients do not have take no part in the first phase. -/
theorem start_firstPhase (library : Library) (m : Module) (c : ExportedClass) (candidates : List Candidate)
    (t : Table) :
    start (candidates.mapM fun candidate =>
        if candidate.exposure.isCallable then some <$> signature ⟨library, false⟩ m c candidate
        else pure none) t =
      match start (callableMethods library m c candidates) t with
      | (.error e, t') => (.error e, t')
      | (.ok methods, t') => (.ok ((assigned candidates methods).map Prod.snd), t') := by
  -- A method that clients do not have leaves the table as it is, so that both sides go on with the rest.
  induction candidates generalizing t with
  | nil => rfl
  | cons candidate rest ih =>
    rw [start_mapM_cons]
    by_cases hcallable : candidate.exposure.isCallable
    · have hfilter : callableMethods library m c (candidate :: rest) =
          (candidate :: rest.filter Candidate.isCallable).mapM (signature ⟨library, false⟩ m c) := by
        unfold callableMethods
        rw [List.filter_cons_of_pos (by exact hcallable)]
      rw [if_pos hcallable, hfilter, start_mapM_cons, map_eq_pure_bind, start_bind]
      rcases start (signature ⟨library, false⟩ m c candidate) t with ⟨r, t'⟩
      cases r with
      | error e => rfl
      | ok method =>
        dsimp only [start_pure]
        rw [ih]
        unfold callableMethods
        rcases start ((rest.filter Candidate.isCallable).mapM (signature ⟨library, false⟩ m c)) t'
          with ⟨r, t''⟩
        cases r with
        | error e => rfl
        | ok methods => simp [assigned, Candidate.isCallable, hcallable]
    · have hfilter : callableMethods library m c (candidate :: rest) = callableMethods library m c rest := by
        unfold callableMethods
        rw [List.filter_cons_of_neg (by exact hcallable)]
      rw [if_neg hcallable, hfilter, start_pure]
      dsimp only
      rw [ih]
      rcases start (callableMethods library m c rest) t with ⟨r, t'⟩
      cases r with
      | error e => rfl
      | ok methods => simp [assigned, Candidate.isCallable, hcallable]

/-! ## The second phase -/

/-- A method that clients do not have, and the table after it. -/
def other (library : Library) (m : Module) (c : ExportedClass) (candidate : Candidate) (t : Table) :
    Method × Table :=
  match start (signature ⟨library, true⟩ m c candidate) t with
  | (.ok method, t') => (method, t')
  | (.error _, t') => (untyped candidate, t'.dropUnfinished)

theorem start_lenientSignature (library : Library) (m : Module) (c : ExportedClass) (candidate : Candidate)
    (t : Table) :
    start (lenientSignature library m c candidate) t =
      (.ok (other library m c candidate t).1, (other library m c candidate t).2) := by
  have hcatch : lenientSignature library m c candidate =
      tryCatch (signature ⟨library, true⟩ m c candidate) fun _ => do
        modify Table.dropUnfinished
        return untyped candidate := rfl
  rw [hcatch, start_tryCatch]
  unfold other
  rcases start (signature ⟨library, true⟩ m c candidate) t with ⟨r, t'⟩
  cases r with
  | ok method => rfl
  | error e => rfl

/-- The second phase: all methods in the order of the class, and the table after it. -/
def others (library : Library) (m : Module) (c : ExportedClass) :
    List (Candidate × Option Method) → Table → List Method × Table
  | [], t => ([], t)
  | (_, some method) :: rest, t =>
    let result := others library m c rest t
    (method :: result.1, result.2)
  | (candidate, none) :: rest, t =>
    let step := other library m c candidate t
    let result := others library m c rest step.2
    (step.1 :: result.1, result.2)

theorem start_secondPhase (library : Library) (m : Module) (c : ExportedClass)
    (pairs : List (Candidate × Option Method)) (t : Table) :
    start (pairs.mapM fun (candidate, resolved) =>
        match resolved with
        | some method => pure method
        -- Giving a signature up is a result like any other.
        | none => lenientSignature library m c candidate) t =
      (.ok (others library m c pairs t).1, (others library m c pairs t).2) := by
  induction pairs generalizing t with
  | nil => rfl
  | cons pair rest ih =>
    obtain ⟨candidate, resolved⟩ := pair
    rw [start_mapM_cons]
    cases resolved with
    | some method =>
      dsimp only [start_pure]
      rw [ih]
      rfl
    | none =>
      dsimp only
      rw [start_lenientSignature]
      dsimp only
      rw [ih]
      rfl

theorem zip_assigned (candidates : List Candidate) (methods : List Method) :
    candidates.zip ((assigned candidates methods).map Prod.snd) = assigned candidates methods := by
  induction candidates generalizing methods with
  | nil => rfl
  | cons candidate rest ih =>
    unfold assigned
    split
    · simp [ih]
    · simp [ih]

/-- Both phases: an error of the first one is the error of all, the second one always succeeds. -/
theorem start_classMethods (library : Library) (m : Module) (c : ExportedClass)
    (candidates : List Candidate) (t : Table) :
    start (classMethods library m c candidates) t =
      match start (callableMethods library m c candidates) t with
      | (.error e, t') => (.error e, t')
      | (.ok methods, t') =>
        let result := others library m c (assigned candidates methods) t'
        (.ok result.1, result.2) := by
  -- Candidates that have been zipped with the first results are those that `assigned` pairs with methods.
  have hphases : classMethods library m c candidates = (do
      let callable ← candidates.mapM fun candidate =>
        if candidate.exposure.isCallable then some <$> signature ⟨library, false⟩ m c candidate
        else pure none
      (candidates.zip callable).mapM fun (candidate, resolved) =>
        match resolved with
        | some method => pure method
        | none => lenientSignature library m c candidate) := rfl
  rw [hphases, start_bind, start_firstPhase]
  rcases start (callableMethods library m c candidates) t with ⟨r, t'⟩
  cases r with
  | error e => rfl
  | ok methods =>
    dsimp only
    rw [zip_assigned]
    exact start_secondPhase library m c (assigned candidates methods) t'

/-- The service of a class, by its phases. -/
theorem classService_eq (library : Library) (exposure : String → String → Exposure) (m : Module)
    (c : ExportedClass) :
    classService library exposure m c =
      match candidates m.path c.name (exposure c.name) c.body.members with
      | .error e => .error e
      | .ok cs =>
        match start (callableMethods (library.insert m) m c cs) [] with
        | (.error e, _) => .error e
        | (.ok methods, t) =>
          let result := others (library.insert m) m c (assigned cs methods) t
          .ok ⟨m.language, m.modulePath, ⟨c.name, result.1, c.docs⟩, result.2.declarations⟩ := by
  unfold classService
  rcases hcs : candidates m.path c.name (exposure c.name) c.body.members with e | cs
  · rfl
  · have hrun : (classMethods (library.insert m) m c cs).run.run [] =
        start (classMethods (library.insert m) m c cs) [] := rfl
    dsimp only [bind, Except.bind]
    rw [hrun, start_classMethods]
    rcases start (callableMethods (library.insert m) m c cs) [] with ⟨r, t⟩
    cases r with
    | error e => rfl
    | ok methods => rfl

/-- A service comes from a first phase that has succeeded. -/
theorem phases_of_classService {library : Library} {exposure : String → String → Exposure} {m : Module}
    {c : ExportedClass} {s : Service} (h : classService library exposure m c = .ok s) :
    ∃ cs methods t, candidates m.path c.name (exposure c.name) c.body.members = .ok cs ∧
      start (callableMethods (library.insert m) m c cs) [] = (.ok methods, t) ∧
      s.api.methods = (others (library.insert m) m c (assigned cs methods) t).1 ∧
      s.declarations = (others (library.insert m) m c (assigned cs methods) t).2.declarations := by
  rw [classService_eq] at h
  rcases hcs : candidates m.path c.name (exposure c.name) c.body.members with e | cs
  · rw [hcs] at h
    cases h
  · rw [hcs] at h
    dsimp only at h
    rcases hrun : start (callableMethods (library.insert m) m c cs) [] with ⟨r, t⟩
    rw [hrun] at h
    cases r with
    | error e => cases h
    | ok methods =>
      cases h
      exact ⟨cs, methods, t, rfl, hrun, rfl, rfl⟩

/-- What is built is the service of a class that the file exports. -/
theorem classService_of_build {library : Library} {exposure : String → ClassExposure} {r : BuildRequest}
    {s : Service} (h : buildService library exposure r = .ok s) :
    ∃ m c, Module.read r.path r.text = .ok m ∧ r.wantedClass? m = some c ∧
      classService library (fun name => (exposure name).method) m c = .ok s := by
  obtain ⟨m, hread, h⟩ := bind_eq_ok_iff.mp h
  rcases hclass : r.wantedClass? m with _ | c
  · rw [hclass] at h
    cases h
  · rw [hclass] at h
    exact ⟨m, c, hread, hclass, h⟩

/-! ## What methods keep of their candidates -/

/-- The method is the one that the candidate stands for. -/
structure Candidate.Heads (candidate : Candidate) (method : Method) : Prop where
  name : method.name = candidate.name
  exposure : method.exposure = candidate.exposure
  docs : method.docs = candidate.method.docs

theorem signature_heads (scope : Scope) (m : Module) (c : ExportedClass) (candidate : Candidate) (t : Table) :
    Ends (signature scope m c candidate) t (fun method _ => candidate.Heads method) (fun _ => True) := by
  unfold signature signatureWith
  refine (ends_any _ t).bind fun params t' _ => ?_
  dsimp only
  split
  · exact (ends_any _ t').bind fun returns _ _ => ⟨rfl, rfl, rfl⟩
  · exact (ends_any _ t').bind fun returns _ _ => ⟨rfl, rfl, rfl⟩

theorem other_heads (library : Library) (m : Module) (c : ExportedClass) (candidate : Candidate) (t : Table) :
    candidate.Heads (other library m c candidate t).1 := by
  unfold other
  rcases hs : start (signature ⟨library, true⟩ m c candidate) t with ⟨r, t'⟩
  cases r with
  | ok method => exact (signature_heads ⟨library, true⟩ m c candidate t).ok hs
  | error e => exact ⟨rfl, rfl, rfl⟩

theorem callableMethods_heads (library : Library) (m : Module) (c : ExportedClass)
    (candidates : List Candidate) (t : Table) :
    Ends (callableMethods library m c candidates) t
      (fun methods _ => List.Forall₂ Candidate.Heads (candidates.filter Candidate.isCallable) methods)
      (fun _ => True) := by
  unfold callableMethods
  generalize candidates.filter Candidate.isCallable = callable
  induction callable generalizing t with
  | nil => exact List.Forall₂.nil
  | cons candidate rest ih =>
    rw [List.mapM_cons]
    refine (signature_heads _ m c candidate t).bind fun method t' hmethod => ?_
    refine (ih t').bind fun methods t'' hmethods => ?_
    exact List.Forall₂.cons hmethod hmethods

/-- A candidate stands beside its method if and only if clients have it. -/
def Fits (pair : Candidate × Option Method) : Prop :=
  match pair.2 with
  | some method => pair.1.isCallable ∧ pair.1.Heads method
  | none => ¬pair.1.isCallable

theorem assigned_spec {candidates : List Candidate} {methods : List Method}
    (h : List.Forall₂ Candidate.Heads (candidates.filter Candidate.isCallable) methods) :
    (assigned candidates methods).map Prod.fst = candidates ∧
      (assigned candidates methods).filterMap Prod.snd = methods ∧
      ∀ pair ∈ assigned candidates methods, Fits pair := by
  induction candidates generalizing methods with
  | nil =>
    cases h
    simp [assigned]
  | cons candidate rest ih =>
    unfold assigned
    -- A method is used up for each callable candidate, since there is one for each of them.
    by_cases hcallable : candidate.isCallable
    · rw [List.filter_cons_of_pos hcallable] at h
      cases h with
      | cons hmethod hrest =>
        obtain ⟨hfst, hsnd, hfits⟩ := ih hrest
        rw [if_pos hcallable]
        refine ⟨by simp [hfst], by simp [hsnd], ?_⟩
        intro pair hpair
        rcases List.mem_cons.mp hpair with rfl | hpair
        · exact ⟨hcallable, hmethod⟩
        · exact hfits pair hpair
    · rw [List.filter_cons_of_neg hcallable] at h
      obtain ⟨hfst, hsnd, hfits⟩ := ih h
      rw [if_neg hcallable]
      refine ⟨by simp [hfst], by simp [hsnd], ?_⟩
      intro pair hpair
      rcases List.mem_cons.mp hpair with rfl | hpair
      · exact hcallable
      · exact hfits pair hpair

/-- Every candidate has its method, in order, and the second phase adds none that clients have. -/
theorem others_heads (library : Library) (m : Module) (c : ExportedClass)
    {pairs : List (Candidate × Option Method)} (hfits : ∀ pair ∈ pairs, Fits pair) (t : Table) :
    List.Forall₂ Candidate.Heads (pairs.map Prod.fst) (others library m c pairs t).1 ∧
      (others library m c pairs t).1.filter (fun method => method.exposure.isCallable) =
        pairs.filterMap Prod.snd := by
  induction pairs generalizing t with
  | nil => exact ⟨List.Forall₂.nil, rfl⟩
  | cons pair rest ih =>
    have hrest : ∀ pair ∈ rest, Fits pair := fun p hp => hfits p (List.mem_cons_of_mem _ hp)
    have hpair : Fits pair := hfits pair List.mem_cons_self
    obtain ⟨candidate, resolved⟩ := pair
    cases resolved with
    | some method =>
      obtain ⟨hcallable, hheads⟩ : candidate.isCallable ∧ candidate.Heads method := hpair
      obtain ⟨hforall, hfilter⟩ := ih hrest t
      have hmethod : method.exposure.isCallable := by
        rw [hheads.exposure]
        exact hcallable
      refine ⟨List.Forall₂.cons hheads hforall, ?_⟩
      simp [others, hmethod, hfilter]
    -- What the second phase makes keeps the exposure of its candidate, which clients do not have.
    | none =>
      have hcallable : ¬candidate.isCallable := hpair
      obtain ⟨hforall, hfilter⟩ := ih hrest (other library m c candidate t).2
      have hheads := other_heads library m c candidate t
      have hmethod : ¬(other library m c candidate t).1.exposure.isCallable := by
        rw [hheads.exposure]
        exact hcallable
      refine ⟨List.Forall₂.cons hheads hforall, ?_⟩
      simp [others, hmethod, hfilter]

end ServiceStubs.Resolution
