import Mathlib.Tactic.Push
import ServiceStubs.Proofs.Resolution.Phases

/-!
# Closed services

A service is closed if every reference in it points at one of its own declarations, of the kind that the
reference has. What clients can call always does. A method that they cannot call may fail to be resolved
after some declarations have been finished that point at others which then are dropped; these references
are left behind, and they are the only ones that can point at nothing.

* `Service.Closed` is the property;
* `referencesLeftBehind` lists what failed signatures leave behind;
* `others_sound` is the invariant of the second phase;
* `buildService_closed_iff` says that a service is closed if and only if whatever was left behind has been
  declared after all;
* `buildService_not_closed` is a service that is not closed.
-/

namespace ServiceStubs

/-! ## Services and their references -/

/-- A declaration of the service is what the reference points at. -/
def Service.Declares (s : Service) (r : TypeRef) : Prop :=
  ∃ d ∈ s.declarations, d.key = r.key ∧ d.body.kind = r.kind

/-- All references in the signatures and declarations of a service. -/
def Service.references (s : Service) : List TypeRef :=
  s.api.methods.flatMap Method.references ++ s.declarations.flatMap Declaration.references

/-- No key is declared twice, and what the references point at is declared. -/
structure Service.Closed (s : Service) : Prop where
  distinct : (s.declarations.map Declaration.key).Nodup
  declared : ∀ r ∈ s.references, s.Declares r

/-- A reference to a key that the service does not declare keeps it from being closed. -/
theorem Service.not_closed_of_missing {s : Service} (key : DeclKey)
    (href : key ∈ s.references.map TypeRef.key) (hmissing : key ∉ s.declarations.map Declaration.key) :
    ¬s.Closed := by
  intro hclosed
  obtain ⟨r, hr, rfl⟩ := List.mem_map.mp href
  obtain ⟨d, hd, hkey, -⟩ := hclosed.declared r hr
  exact hmissing (hkey ▸ List.mem_map_of_mem hd)

namespace Resolution

open Source

namespace Table

/-! ## Dropping what was never finished -/

/-- The references of finished declarations to places that are still empty. -/
def leftBehind (t : Table) : List TypeRef :=
  (t.dropUnfinished.declarations.flatMap Declaration.references).filter fun r =>
    t.any fun s => s.key = r.key && s.declaration.isNone

theorem mem_declarations {t : Table} {d : Declaration} :
    d ∈ t.declarations ↔ ∃ s ∈ t, s.declaration = some d := by
  unfold declarations
  rw [List.mem_filterMap]

theorem mem_dropUnfinished {t : Table} {s : Slot} :
    s ∈ t.dropUnfinished ↔ s ∈ t ∧ s.declaration.isSome := by
  unfold dropUnfinished
  rw [List.mem_filter]

theorem settled_dropUnfinished (t : Table) : t.dropUnfinished.Settled :=
  fun _ hs => (mem_dropUnfinished.mp hs).2

theorem dropUnfinished_of_settled {t : Table} (h : t.Settled) : t.dropUnfinished = t :=
  List.filter_eq_self.mpr h

theorem prefix_dropUnfinished {t t' : Table} (hset : t.Settled) (hpre : t <+: t') :
    t <+: t'.dropUnfinished := by
  obtain ⟨new, rfl⟩ := hpre
  have happend : (t ++ new).dropUnfinished = t.dropUnfinished ++ dropUnfinished new :=
    List.filter_append t new
  rw [happend, dropUnfinished_of_settled hset]
  exact List.prefix_append t _

theorem declarations_mono {t t' : Table} (hpre : t <+: t') : t.declarations <+: t'.declarations := by
  obtain ⟨new, rfl⟩ := hpre
  exact ⟨declarations new, (List.filterMap_append).symm⟩

/-- Every declaration keeps the references that do not point at a dropped place. -/
theorem sound_dropUnfinished {lost : TypeRef → Prop} {t : Table} (h : t.Sound lost) :
    t.dropUnfinished.Sound (fun r => lost r ∨ r ∈ t.leftBehind) := by
  have hdistinct : (t.dropUnfinished.map (·.key)).Nodup :=
    h.distinct.sublist (List.filter_sublist.map _)
  refine ⟨hdistinct, ?_, ?_⟩
  · intro s hs d hd
    exact h.faithful s (mem_dropUnfinished.mp hs).1 d hd
  · intro s hs d hd r hr
    rcases h.linked s (mem_dropUnfinished.mp hs).1 d hd r hr with hfind | hlost
    · obtain ⟨target, htarget, hkey, hkind⟩ := (kind?_eq_some_iff h.distinct).mp hfind
      -- The place that the reference points at stays if it was finished. If not, it is left behind.
      by_cases hdone : target.declaration.isSome
      · left
        exact (kind?_eq_some_iff hdistinct).mpr
          ⟨target, mem_dropUnfinished.mpr ⟨htarget, hdone⟩, hkey, hkind⟩
      · right
        right
        have hmention : r ∈ t.dropUnfinished.declarations.flatMap Declaration.references :=
          List.mem_flatMap.mpr ⟨d, mem_declarations.mpr ⟨s, hs, hd⟩, hr⟩
        have hempty : t.any (fun s => s.key = r.key && s.declaration.isNone) := by
          rw [List.any_eq_true]
          exact ⟨target, htarget, by simpa [hkey] using hdone⟩
        exact List.mem_filter.mpr ⟨hmention, hempty⟩
    · exact .inr (.inl hlost)

/-- In a settled table, what a reference finds is declared. -/
theorem Finds.declared {lost : TypeRef → Prop} {t : Table} {r : TypeRef} (hr : t.Finds r)
    (hsound : t.Sound lost) (hset : t.Settled) :
    ∃ d ∈ t.declarations, d.key = r.key ∧ d.body.kind = r.kind := by
  obtain ⟨s, hs, hkey, hkind⟩ := (kind?_eq_some_iff hsound.distinct).mp hr
  obtain ⟨d, hd⟩ := Option.isSome_iff_exists.mp (hset s hs)
  have hfaithful := hsound.faithful s hs d hd
  exact ⟨d, mem_declarations.mpr ⟨s, hs, hd⟩, hfaithful.1.trans hkey, hfaithful.2.trans hkind⟩

theorem Sound.mono {lost lost' : TypeRef → Prop} {t : Table} (h : t.Sound lost)
    (hmono : ∀ r, lost r → lost' r) : t.Sound lost' :=
  ⟨h.distinct, h.faithful, fun s hs d hd r hr => (h.linked s hs d hd r hr).imp_right (hmono r)⟩

/-- The keys of the declarations are those of their places. -/
theorem Sound.distinct_declarations {lost : TypeRef → Prop} {t : Table} (h : t.Sound lost) :
    (t.declarations.map Declaration.key).Nodup := by
  have hkeys : (t.declarations.map Declaration.key).Sublist (t.map (·.key)) := by
    have hall := h.faithful
    clear h
    induction t with
    | nil => exact List.Sublist.refl _
    | cons s rest ih =>
      have hrest := ih fun s' hs' => hall s' (List.mem_cons_of_mem s hs')
      cases hd : s.declaration with
      | none =>
        simpa [declarations, hd] using hrest.cons s.key
      | some d =>
        have hkey : d.key = s.key := (hall s List.mem_cons_self d hd).1
        simpa [declarations, hd, hkey] using hrest.cons_cons s.key
  exact h.distinct.sublist hkeys

end Table

/-! ## The second phase -/

/-- The tables in which signatures of methods that clients do not have fail, in order. -/
def rollbacks (library : Library) (m : Module) (c : ExportedClass) : List Candidate → Table → List Table
  | [], _ => []
  | candidate :: rest, t =>
    if candidate.isCallable then rollbacks library m c rest t
    else
      match start (signature ⟨library, true⟩ m c candidate) t with
      | (.ok _, t') => rollbacks library m c rest t'
      | (.error _, t') => t' :: rollbacks library m c rest t'.dropUnfinished

theorem untyped_references (candidate : Candidate) : (untyped candidate).references = [] := by
  have hparams : ∀ p ∈ (untyped candidate).params, p.type.references = [] := by
    intro p hp
    obtain ⟨i, hi, rfl⟩ := List.mem_mapIdx.mp hp
    simp [DataType.references]
  have hreturns : (untyped candidate).returns.references = [] := defaultResult_references _
  unfold Method.references
  rw [hreturns, List.append_nil, List.flatMap_eq_nil_iff]
  exact hparams

/-- From a settled table on, a method that clients do not have leaves a settled table again. Its
references, and all that point into the table, are found there, but for those that it leaves behind. -/
theorem other_sound (library : Library) (m : Module) (c : ExportedClass) {candidate : Candidate}
    (hcallable : ¬candidate.isCallable) {lost : TypeRef → Prop} {t : Table} (hsound : t.Sound lost)
    (hset : t.Settled) (rest : List Candidate) :
    ∃ left : List TypeRef,
      (rollbacks library m c (candidate :: rest) t).flatMap Table.leftBehind =
        left ++ (rollbacks library m c rest (other library m c candidate t).2).flatMap Table.leftBehind ∧
      (other library m c candidate t).2.Sound (fun r => lost r ∨ r ∈ left) ∧
      (other library m c candidate t).2.Settled ∧ t <+: (other library m c candidate t).2 ∧
      (∀ r ∈ left, ∃ d ∈ (other library m c candidate t).2.declarations, r ∈ d.references) ∧
      ∀ r ∈ (other library m c candidate t).1.references, (other library m c candidate t).2.Finds r := by
  have hsig := signature_enters ⟨library, true⟩ m c candidate [] t hsound (by simp)
  have hrollbacks : rollbacks library m c (candidate :: rest) t =
      match start (signature ⟨library, true⟩ m c candidate) t with
      | (.ok _, t') => rollbacks library m c rest t'
      | (.error _, t') => t' :: rollbacks library m c rest t'.dropUnfinished := by
    rw [rollbacks, if_neg hcallable]
  rw [hrollbacks]
  unfold other
  rcases hs : start (signature ⟨library, true⟩ m c candidate) t with ⟨r, t'⟩
  -- Only a signature that fails leaves something behind, and only then places are dropped.
  cases r with
  | ok method =>
    obtain ⟨hsound', hgrows, hrefs⟩ := hsig.ok hs
    refine ⟨[], by simp, hsound'.mono fun r hr => .inl hr, hgrows.settled hset, hgrows.isPrefix, by simp, ?_⟩
    exact hrefs
  | error e =>
    obtain ⟨hsound', hpre⟩ := hsig.error hs
    refine ⟨t'.leftBehind, by simp, Table.sound_dropUnfinished hsound', Table.settled_dropUnfinished t',
      Table.prefix_dropUnfinished hset hpre, ?_, ?_⟩
    · intro r hr
      exact List.mem_flatMap.mp (List.mem_filter.mp hr).1
    · rw [untyped_references]
      simp

/-- The second phase leaves a settled table in which all references are found, but for those that its
failed signatures leave behind; and these are references of its declarations. -/
theorem others_sound (library : Library) (m : Module) (c : ExportedClass)
    {pairs : List (Candidate × Option Method)} (hfits : ∀ pair ∈ pairs, Fits pair) {lost : TypeRef → Prop}
    {t : Table} (hsound : t.Sound lost) (hset : t.Settled) :
    let left := (rollbacks library m c (pairs.map Prod.fst) t).flatMap Table.leftBehind
    let result := others library m c pairs t
    result.2.Sound (fun r => lost r ∨ r ∈ left) ∧ result.2.Settled ∧ t <+: result.2 ∧
      (∀ r ∈ left, ∃ d ∈ result.2.declarations, r ∈ d.references) ∧
      ∀ method ∈ result.1, some method ∈ pairs.map Prod.snd ∨ ∀ r ∈ method.references, result.2.Finds r := by
  -- What is excused grows with each candidate, so that `lost` is not the same in all steps.
  induction pairs generalizing lost t with
  | nil =>
    exact ⟨hsound.mono fun r hr => .inl hr, hset, List.prefix_rfl, by simp [rollbacks], by simp [others]⟩
  | cons pair rest ih =>
    have hrest : ∀ pair ∈ rest, Fits pair := fun p hp => hfits p (List.mem_cons_of_mem _ hp)
    have hpair : Fits pair := hfits pair List.mem_cons_self
    obtain ⟨candidate, resolved⟩ := pair
    cases resolved with
    | some method =>
      have hcallable : candidate.isCallable := hpair.1
      have hskip : rollbacks library m c (((candidate, some method) :: rest).map Prod.fst) t =
          rollbacks library m c (rest.map Prod.fst) t := by
        rw [List.map_cons, rollbacks, if_pos hcallable]
      obtain ⟨hsound', hset', hpre, hleft, hmethods⟩ := ih hrest hsound hset
      dsimp only [others]
      rw [hskip]
      refine ⟨hsound', hset', hpre, hleft, ?_⟩
      intro method' hmethod'
      rcases List.mem_cons.mp hmethod' with rfl | hmethod'
      · exact .inl List.mem_cons_self
      · exact (hmethods method' hmethod').imp_left (List.mem_cons_of_mem _)
    | none =>
      obtain ⟨left, hsplit, hsound₁, hset₁, hpre₁, hleft₁, hrefs₁⟩ :=
        other_sound library m c hpair hsound hset (rest.map Prod.fst)
      obtain ⟨hsound₂, hset₂, hpre₂, hleft₂, hmethods₂⟩ := ih hrest hsound₁ hset₁
      dsimp only [others]
      rw [List.map_cons, hsplit]
      refine ⟨?_, hset₂, hpre₁.trans hpre₂, ?_, ?_⟩
      · refine hsound₂.mono ?_
        rintro r ((hr | hr) | hr)
        · exact .inl hr
        · exact .inr (List.mem_append_left _ hr)
        · exact .inr (List.mem_append_right _ hr)
      · -- Declarations that are there after one step stay for all others.
        intro r hr
        rcases List.mem_append.mp hr with hr | hr
        · obtain ⟨d, hd, hrd⟩ := hleft₁ r hr
          exact ⟨d, (Table.declarations_mono hpre₂).subset hd, hrd⟩
        · exact hleft₂ r hr
      · intro method hmethod
        rcases List.mem_cons.mp hmethod with rfl | hmethod
        · exact .inr fun r hr => (hrefs₁ r hr).mono hpre₂
        · exact (hmethods₂ method hmethod).imp_left (List.mem_cons_of_mem _)

/-! ## Whole services -/

/-- The references that the failed signatures of a class leave behind. -/
def referencesLeftBehind (library : Library) (exposure : String → String → Exposure) (m : Module)
    (c : ExportedClass) : List TypeRef :=
  match candidates m.path c.name (exposure c.name) c.body.members with
  | .error _ => []
  | .ok cs =>
    let afterCallable := (start (callableMethods (library.insert m) m c cs) []).2
    (rollbacks (library.insert m) m c cs afterCallable).flatMap Table.leftBehind

theorem sound_nil (lost : TypeRef → Prop) : Table.Sound lost [] :=
  ⟨List.nodup_nil, by simp, by simp⟩

/-- The first phase leaves a settled table in which all references of the methods are found. -/
theorem callableMethods_sound (library : Library) (m : Module) (c : ExportedClass) (cs : List Candidate)
    (lost : TypeRef → Prop) :
    Ends (callableMethods library m c cs) []
      (fun methods t => t.Sound lost ∧ t.Settled ∧ ∀ r ∈ methods.flatMap Method.references, t.Finds r)
      (fun _ => True) := by
  have henters : Enters lost [] (callableMethods library m c cs) (List.flatMap Method.references) :=
    Enters.mapM _ fun candidate _ => signature_enters ⟨library, false⟩ m c candidate
  refine (henters [] (sound_nil lost) (by simp)).mono ?_ (fun _ _ => trivial)
  rintro methods t ⟨hsound, hgrows, hrefs⟩
  exact ⟨hsound, hgrows.settled (by simp [Table.Settled]), hrefs⟩

/-- A service with the declarations of a settled table declares what is found there, and what these declarations
mention, unless it is lost. -/
theorem declares_of_sound {s : Service} {t : Table} {lost : TypeRef → Prop} (hsound : t.Sound lost)
    (hset : t.Settled) (hdeclarations : s.declarations = t.declarations) :
    (∀ r, t.Finds r → s.Declares r) ∧ ∀ d ∈ s.declarations, ∀ r ∈ d.references, s.Declares r ∨ lost r := by
  have hdeclares : ∀ r, t.Finds r → s.Declares r := by
    intro r hr
    unfold Service.Declares
    rw [hdeclarations]
    exact hr.declared hsound hset
  refine ⟨hdeclares, fun d hd r hr => ?_⟩
  rw [hdeclarations] at hd
  obtain ⟨slot, hslot, hsd⟩ := Table.mem_declarations.mp hd
  exact (hsound.linked slot hslot d hsd r hr).imp_left (hdeclares r)

/-- What the service of a class declares: nothing twice, everything that its methods mention, and all that
its declarations mention and no failed signature has left behind. -/
theorem classService_references {library : Library} {exposure : String → String → Exposure} {m : Module}
    {c : ExportedClass} {s : Service} (h : classService library exposure m c = .ok s) :
    (s.declarations.map Declaration.key).Nodup ∧
      (∀ method ∈ s.api.methods, ∀ r ∈ method.references, s.Declares r) ∧
      (∀ d ∈ s.declarations, ∀ r ∈ d.references,
        s.Declares r ∨ r ∈ referencesLeftBehind library exposure m c) ∧
      ∀ r ∈ referencesLeftBehind library exposure m c, ∃ d ∈ s.declarations, r ∈ d.references := by
  obtain ⟨cs, methods, t, hcs, hrun, hapi, hdeclarations⟩ := phases_of_classService h
  obtain ⟨hsound, hset, hrefs⟩ := (callableMethods_sound (library.insert m) m c cs fun _ => False).ok hrun
  obtain ⟨hfst, hsnd, hfits⟩ := assigned_spec ((callableMethods_heads (library.insert m) m c cs []).ok hrun)
  -- What is sound after the first phase stays so in the second one, but for what failed signatures leave behind.
  have hsecond := others_sound (library.insert m) m c hfits hsound hset
  rw [hfst] at hsecond
  obtain ⟨hsound', hset', hpre, hleft, hmethods⟩ := hsecond
  have hbehind : referencesLeftBehind library exposure m c =
      (rollbacks (library.insert m) m c cs t).flatMap Table.leftBehind := by
    unfold referencesLeftBehind
    simp only [hcs, hrun]
  obtain ⟨hdeclares, hmentions⟩ := declares_of_sound hsound' hset' hdeclarations
  rw [hbehind, hapi]
  refine ⟨hdeclarations ▸ hsound'.distinct_declarations, ?_, ?_, hdeclarations ▸ hleft⟩
  · intro method hmethod r hr
    apply hdeclares
    rcases hmethods method hmethod with hcallable | hfinds
    · have hmem : method ∈ methods := by
        rw [← hsnd]
        obtain ⟨pair, hpair, heq⟩ := List.mem_map.mp hcallable
        exact List.mem_filterMap.mpr ⟨pair, hpair, heq⟩
      exact (hrefs r (List.mem_flatMap.mpr ⟨method, hmem, hr⟩)).mono hpre
    · exact hfinds r hr
  · intro d hd r hr
    exact (hmentions d hd r hr).imp_right fun hlost => hlost.resolve_left id

/-- A service declares no key twice, and what its methods mention is declared, whether clients can call
them or not. It is closed if and only if what failed signatures leave behind is declared after all. -/
theorem buildService_closed_iff {library : Library} {exposure : String → ClassExposure} {r : BuildRequest}
    {s : Service} (h : buildService library exposure r = .ok s) :
    ∃ m c, Module.read r.path r.text = .ok m ∧ r.wantedClass? m = some c ∧
      (s.declarations.map Declaration.key).Nodup ∧
      (∀ method ∈ s.api.methods, ∀ ref ∈ method.references, s.Declares ref) ∧
      (s.Closed ↔
        ∀ ref ∈ referencesLeftBehind library (fun name => (exposure name).method) m c, s.Declares ref) := by
  obtain ⟨m, c, hread, hclass, h⟩ := classService_of_build h
  obtain ⟨hdistinct, hmethods, hdecls, hleft⟩ := classService_references h
  refine ⟨m, c, hread, hclass, hdistinct, hmethods, ?_⟩
  constructor
  · intro hclosed ref href
    obtain ⟨d, hd, hrd⟩ := hleft ref href
    exact hclosed.declared ref (List.mem_append_right _ (List.mem_flatMap.mpr ⟨d, hd, hrd⟩))
  · intro hafter
    refine ⟨hdistinct, ?_⟩
    intro ref href
    rcases List.mem_append.mp href with href | href
    · obtain ⟨method, hmethod, hrm⟩ := List.mem_flatMap.mp href
      exact hmethods method hmethod ref hrm
    · obtain ⟨d, hd, hrd⟩ := List.mem_flatMap.mp href
      exact (hdecls d hd ref hrd).elim id (hafter ref)

/-! ## A service that is not closed -/

/-- A class whose second method clients cannot call. Its parameter is of a type that cannot be resolved,
but leads to a record that can, and that refers to it. -/
def entangledRequest : BuildRequest :=
  { path := "s.ts"
    text := "type B = { a: A }\ntype A = { b: B; [x]: string }\n" ++
      "export class S { f(): void {} g(a: A): void {} }"
    className := none }

/-- Clients can call all methods but `g`. -/
def allButG : String → ClassExposure :=
  fun _ => ⟨.rpc, [("g", .http)]⟩

theorem buildService_entangled :
    ∃ s, buildService (Library.ofFiles []) allButG entangledRequest = .ok s ∧
      s.declarations.map Declaration.key = [⟨"B", "s"⟩] ∧ s.references.map TypeRef.key = [⟨"A", "s"⟩] := by
  have hrun : (buildService (Library.ofFiles []) allButG entangledRequest).toOption.map
      (fun s => (s.declarations.map Declaration.key, s.references.map TypeRef.key)) =
      some ([⟨"B", "s"⟩], [⟨"A", "s"⟩]) := by
    decide +kernel
  obtain ⟨s, hs, hpair⟩ := toOption_map_eq_some_iff.mp hrun
  obtain ⟨hkeys, hrefs⟩ := Prod.mk.inj hpair
  exact ⟨s, hs, hkeys, hrefs⟩

/-- The record that is finished stays, the type that it refers to does not. -/
theorem buildService_not_closed :
    ∃ s, buildService (Library.ofFiles []) allButG entangledRequest = .ok s ∧ ¬s.Closed := by
  obtain ⟨s, hs, hkeys, hrefs⟩ := buildService_entangled
  refine ⟨s, hs, Service.not_closed_of_missing ⟨"A", "s"⟩ ?_ ?_⟩
  · simp [hrefs]
  · simp [hkeys]

/-- Some reference is left behind in the service that is not closed. -/
theorem buildService_closed_iff_entangled :
    ∃ s m c, buildService (Library.ofFiles []) allButG entangledRequest = .ok s ∧
      Module.read entangledRequest.path entangledRequest.text = .ok m ∧
      entangledRequest.wantedClass? m = some c ∧
      ∃ ref ∈ referencesLeftBehind (Library.ofFiles []) (fun name => (allButG name).method) m c,
        ¬s.Declares ref := by
  obtain ⟨s, hs, hkeys, hrefs⟩ := buildService_entangled
  obtain ⟨m, c, hread, hclass, -, -, hiff⟩ := buildService_closed_iff hs
  refine ⟨s, m, c, hs, hread, hclass, ?_⟩
  by_contra hnone
  push Not at hnone
  refine Service.not_closed_of_missing ⟨"A", "s"⟩ ?_ ?_ (hiff.mpr hnone)
  · simp [hrefs]
  · simp [hkeys]

end Resolution

end ServiceStubs
