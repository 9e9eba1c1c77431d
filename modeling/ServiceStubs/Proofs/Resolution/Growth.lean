import Mathlib.Tactic.Tauto
import ServiceStubs.Proofs.Start
import ServiceStubs.Resolution.Signature

/-!
# How the table of declarations grows

Resolving types only ever adds places to the table. A declaration claims its place before its body is
resolved and takes it afterwards, so that a computation that succeeds leaves every place it added with a
declaration; one that fails may leave some empty.

* `Sound` is what holds of the table at every moment, while `lost` collects the references that are
  excused from pointing into it;
* `Enters` says that a computation keeps the table sound, only adds to it, and that the references in its
  result point into the table that it leaves;
* `Enters.bind` is the rule by which this is shown of a computation step by step;
* `sound_claim` and `finish_claimed` are the two steps of a declaration.
-/

namespace ServiceStubs.Resolution

variable {α β : Type}

/-! ## Outcomes -/

/-- From `t` on, `x` either succeeds as `good` says or fails as `bad` says. -/
def Ends (x : Resolve α) (t : Table) (good : α → Table → Prop) (bad : Table → Prop) : Prop :=
  match start x t with
  | (.ok a, t') => good a t'
  | (.error _, t') => bad t'

theorem Ends.ok {x : Resolve α} {t t' : Table} {a : α} {good : α → Table → Prop} {bad : Table → Prop}
    (h : Ends x t good bad) (hrun : start x t = (.ok a, t')) : good a t' := by
  unfold Ends at h
  rwa [hrun] at h

theorem Ends.error {x : Resolve α} {t t' : Table} {e : Error} {good : α → Table → Prop} {bad : Table → Prop}
    (h : Ends x t good bad) (hrun : start x t = (.error e, t')) : bad t' := by
  unfold Ends at h
  rwa [hrun] at h

theorem Ends.bind {x : Resolve α} {f : α → Resolve β} {t : Table} {middle : α → Table → Prop}
    {good : β → Table → Prop} {bad : Table → Prop} (hx : Ends x t middle bad)
    (hf : ∀ a t', middle a t' → Ends (f a) t' good bad) : Ends (x >>= f) t good bad := by
  unfold Ends at hx ⊢
  rw [start_bind]
  rcases hs : start x t with ⟨r, t'⟩
  rw [hs] at hx
  cases r with
  | ok a => exact hf a t' hx
  | error e => exact hx

theorem Ends.mono {x : Resolve α} {t : Table} {good good' : α → Table → Prop} {bad bad' : Table → Prop}
    (hx : Ends x t good bad) (hgood : ∀ a t', good a t' → good' a t')
    (hbad : ∀ t', bad t' → bad' t') : Ends x t good' bad' := by
  unfold Ends at hx ⊢
  rcases hs : start x t with ⟨r, t'⟩
  rw [hs] at hx
  cases r with
  | ok a => exact hgood a t' hx
  | error e => exact hbad t' hx

theorem Ends.and {x : Resolve α} {t : Table} {good good' : α → Table → Prop} {bad bad' : Table → Prop}
    (h : Ends x t good bad) (h' : Ends x t good' bad') :
    Ends x t (fun a t' => good a t' ∧ good' a t') (fun t' => bad t' ∧ bad' t') := by
  unfold Ends at h h' ⊢
  rcases hs : start x t with ⟨r, t'⟩
  rw [hs] at h h'
  cases r with
  | ok a => exact ⟨h, h'⟩
  | error e => exact ⟨h, h'⟩

/-- Every computation ends in some way. -/
theorem ends_any (x : Resolve α) (t : Table) : Ends x t (fun _ _ => True) (fun _ => True) := by
  unfold Ends
  split <;> trivial

/-! ## Tables -/

namespace Table

/-- A reference points into the table: its key has a place, of its kind. -/
def Finds (t : Table) (r : TypeRef) : Prop :=
  t.kind? r.key = some r.kind

/-- All declarations have taken their places. -/
def Settled (t : Table) : Prop :=
  ∀ s ∈ t, s.declaration.isSome

/-- A table that has been added to, and all declarations added have taken their places. -/
def GrowsTo (t t' : Table) : Prop :=
  ∃ new : Table, t' = t ++ new ∧ new.Settled

/-- What holds of the table at every moment. The references in declarations point into it, unless they are
`lost`. -/
structure Sound (lost : TypeRef → Prop) (t : Table) : Prop where
  distinct : (t.map (·.key)).Nodup
  faithful : ∀ s ∈ t, ∀ d, s.declaration = some d → d.key = s.key ∧ d.body.kind = s.kind
  linked : ∀ s ∈ t, ∀ d, s.declaration = some d → ∀ r ∈ d.references, t.Finds r ∨ lost r

theorem kind?_append (t new : Table) (key : DeclKey) :
    (t ++ new).kind? key = (t.kind? key).or (new.kind? key) := by
  unfold kind?
  rw [List.find?_append]
  cases t.find? fun s => s.key = key with
  | none => simp
  | some s => simp

theorem Finds.append {t : Table} {r : TypeRef} (h : t.Finds r) (new : Table) : (t ++ new).Finds r := by
  unfold Finds at h ⊢
  rw [kind?_append, h]
  rfl

theorem Finds.mono {t t' : Table} {r : TypeRef} (h : t.Finds r) (hpre : t <+: t') : t'.Finds r := by
  obtain ⟨new, rfl⟩ := hpre
  exact h.append new

theorem kind?_eq_none_iff {t : Table} {key : DeclKey} : t.kind? key = none ↔ ∀ s ∈ t, s.key ≠ key := by
  unfold kind?
  rw [Option.map_eq_none_iff, List.find?_eq_none]
  constructor
  · intro h s hs
    simpa using h s hs
  · intro h s hs
    simpa using h s hs

/-- Keys stand in one place only, so that a slot decides what is found under its key. -/
theorem kind?_eq_some_iff {t : Table} (hdistinct : (t.map (·.key)).Nodup) {key : DeclKey} {kind : DeclKind} :
    t.kind? key = some kind ↔ ∃ s ∈ t, s.key = key ∧ s.kind = kind := by
  induction t with
  | nil => simp [kind?]
  | cons s rest ih =>
    rw [List.map_cons, List.nodup_cons] at hdistinct
    have hcons : kind? (s :: rest) key = if s.key = key then some s.kind else kind? rest key := by
      unfold kind?
      by_cases hk : s.key = key
      · simp [hk]
      · simp [hk]
    rw [hcons]
    -- The first slot with the key is the only one, so that no later one can be of another kind.
    by_cases hk : s.key = key
    · rw [if_pos hk]
      constructor
      · intro h
        exact ⟨s, List.mem_cons_self, hk, Option.some.inj h⟩
      · rintro ⟨s', hs', hk', hkind⟩
        rcases List.mem_cons.mp hs' with rfl | hmem
        · rw [hkind]
        · have hkey : s.key ∈ rest.map (·.key) := by
            rw [hk, ← hk']
            exact List.mem_map_of_mem hmem
          exact absurd hkey hdistinct.1
    · rw [if_neg hk, ih hdistinct.2]
      constructor
      · rintro ⟨s', hs', h⟩
        exact ⟨s', List.mem_cons_of_mem s hs', h⟩
      · rintro ⟨s', hs', hk', hkind⟩
        rcases List.mem_cons.mp hs' with rfl | hmem
        · exact absurd hk' hk
        · exact ⟨s', hmem, hk', hkind⟩

theorem GrowsTo.refl (t : Table) : t.GrowsTo t :=
  ⟨[], by simp, by simp [Settled]⟩

theorem GrowsTo.trans {t₁ t₂ t₃ : Table} (h : t₁.GrowsTo t₂) (h' : t₂.GrowsTo t₃) : t₁.GrowsTo t₃ := by
  obtain ⟨new, rfl, hnew⟩ := h
  obtain ⟨more, rfl, hmore⟩ := h'
  refine ⟨new ++ more, by simp, ?_⟩
  intro s hs
  rcases List.mem_append.mp hs with hs | hs
  · exact hnew s hs
  · exact hmore s hs

theorem GrowsTo.isPrefix {t t' : Table} (h : t.GrowsTo t') : t <+: t' := by
  obtain ⟨new, rfl, -⟩ := h
  exact List.prefix_append t new

theorem GrowsTo.settled {t t' : Table} (h : t.GrowsTo t') (hset : t.Settled) : t'.Settled := by
  obtain ⟨new, rfl, hnew⟩ := h
  intro s hs
  rcases List.mem_append.mp hs with hs | hs
  · exact hset s hs
  · exact hnew s hs

/-! ## The two steps of a declaration -/

/-- A key that has no place can claim one. -/
theorem nodup_claim {t : Table} (h : (t.map (·.key)).Nodup) {key : DeclKey} (hfresh : t.kind? key = none)
    (kind : DeclKind) : ((t.claim key kind).map (·.key)).Nodup := by
  have hkeys : (t.claim key kind).map (·.key) = t.map (·.key) ++ [key] := by simp [claim]
  rw [hkeys, List.nodup_append]
  refine ⟨h, by simp, ?_⟩
  intro k hk k' hk'
  rw [List.mem_singleton] at hk'
  subst hk'
  obtain ⟨s, hs, rfl⟩ := List.mem_map.mp hk
  exact kind?_eq_none_iff.mp hfresh s hs

/-- A declaration that claims a place is not looked at yet. -/
theorem sound_claim {lost : TypeRef → Prop} {t : Table} (h : t.Sound lost) {key : DeclKey}
    (hfresh : t.kind? key = none) (kind : DeclKind) : (t.claim key kind).Sound lost := by
  -- Whatever has a declaration was in the table before.
  have hold : ∀ s ∈ t.claim key kind, ∀ d, s.declaration = some d → s ∈ t := by
    intro s hs d hd
    rcases List.mem_append.mp hs with hs | hs
    · exact hs
    · rw [List.mem_singleton] at hs
      subst hs
      cases hd
  refine ⟨nodup_claim h.distinct hfresh kind, ?_, ?_⟩
  · intro s hs d hd
    exact h.faithful s (hold s hs d hd) d hd
  · intro s hs d hd r hr
    rcases h.linked s (hold s hs d hd) d hd r hr with hfind | hlost
    · exact .inl (hfind.append _)
    · exact .inr hlost

/-- A declaration takes the place that it has claimed and leaves all others alone. -/
theorem finish_claimed {t new : Table} {d : Declaration} {kind : DeclKind}
    (hdistinct : ((t.claim d.key kind ++ new).map (·.key)).Nodup) :
    (t.claim d.key kind ++ new).finish d = t ++ ⟨d.key, kind, some d⟩ :: new := by
  -- The key stands in no other place, neither before the one that is claimed nor after it.
  have hother : ∀ xs : Table, d.key ∉ xs.map (·.key) → xs.finish d = xs := by
    intro xs hxs
    have hid : ∀ s ∈ xs, (if s.key = d.key then { s with declaration := some d } else s) = id s := by
      intro s hs
      have hne : s.key ≠ d.key := by
        intro heq
        exact hxs (heq ▸ List.mem_map_of_mem hs)
      rw [if_neg hne, id]
    calc xs.finish d = xs.map id := List.map_congr_left hid
      _ = xs := List.map_id xs
  have hkeys : (t.claim d.key kind ++ new).map (·.key) = t.map (·.key) ++ d.key :: new.map (·.key) := by
    simp [claim]
  rw [hkeys, List.nodup_append, List.nodup_cons] at hdistinct
  have ht : d.key ∉ t.map (·.key) := by
    intro hmem
    exact hdistinct.2.2 _ hmem _ List.mem_cons_self rfl
  have happend : (t.claim d.key kind ++ new).finish d =
      t.finish d ++ ⟨d.key, kind, some d⟩ :: new.finish d := by
    simp [claim, finish]
  rw [happend, hother t ht, hother new hdistinct.2.1.1]

theorem kind?_fill (t new : Table) (key : DeclKey) (kind : DeclKind) (d : Declaration) (k : DeclKey) :
    (t ++ ⟨key, kind, some d⟩ :: new).kind? k = (t.claim key kind ++ new).kind? k := by
  have hsplit : t ++ ⟨key, kind, some d⟩ :: new = (t ++ [⟨key, kind, some d⟩]) ++ new := by simp
  rw [hsplit, claim, kind?_append, kind?_append, kind?_append, kind?_append]
  simp [kind?]

/-- A declaration whose references point into the table can take its place. -/
theorem sound_fill {lost : TypeRef → Prop} {t new : Table} {d : Declaration}
    (h : (t.claim d.key d.body.kind ++ new).Sound lost)
    (hrefs : ∀ r ∈ d.references, (t.claim d.key d.body.kind ++ new).Finds r) :
    (t ++ ⟨d.key, d.body.kind, some d⟩ :: new).Sound lost := by
  have hfinds : ∀ r, (t.claim d.key d.body.kind ++ new).Finds r →
      Finds (t ++ ⟨d.key, d.body.kind, some d⟩ :: new) r := by
    intro r hr
    unfold Finds at hr ⊢
    rw [kind?_fill]
    exact hr
  -- The place was there before, without a declaration; all others have not changed.
  have hmem : ∀ s ∈ t ++ ⟨d.key, d.body.kind, some d⟩ :: new,
      s = ⟨d.key, d.body.kind, some d⟩ ∨ s ∈ t.claim d.key d.body.kind ++ new := by
    intro s hs
    simp only [List.mem_append, List.mem_cons, claim] at hs ⊢
    tauto
  refine ⟨?_, ?_, ?_⟩
  · simpa [claim] using h.distinct
  · intro s hs d' hd'
    rcases hmem s hs with rfl | hs
    · cases hd'
      exact ⟨rfl, rfl⟩
    · exact h.faithful s hs d' hd'
  · intro s hs d' hd' r hr
    rcases hmem s hs with rfl | hs
    · cases hd'
      exact .inl (hfinds r (hrefs r hr))
    · rcases h.linked s hs d' hd' r hr with hfind | hlost
      · exact .inl (hfinds r hfind)
      · exact .inr hlost

end Table

/-! ## Computations that enter declarations -/

/-- From every sound table into which the references `given` point, `x` adds to the table and keeps it
sound. If it succeeds, nothing that it added is without a declaration and the references `refs` of its
result point into the table. -/
def Enters (lost : TypeRef → Prop) (given : List TypeRef) (x : Resolve α) (refs : α → List TypeRef) : Prop :=
  ∀ t : Table, t.Sound lost → (∀ r ∈ given, t.Finds r) →
    Ends x t (fun a t' => t'.Sound lost ∧ t.GrowsTo t' ∧ ∀ r ∈ refs a, t'.Finds r)
      (fun t' => t'.Sound lost ∧ t <+: t')

section

variable {lost : TypeRef → Prop} {given : List TypeRef}

theorem Enters.pure {a : α} {refs : α → List TypeRef} (h : ∀ r ∈ refs a, r ∈ given) :
    Enters lost given (pure a) refs := by
  intro t ht hgiven
  exact ⟨ht, .refl t, fun r hr => hgiven r (h r hr)⟩

/-- What comes last hands out only references of what came right before it. -/
theorem Enters.pure_last {a : α} {last : List TypeRef} {refs : α → List TypeRef}
    (h : ∀ r ∈ refs a, r ∈ last) : Enters lost (given ++ last) (Pure.pure a) refs :=
  Enters.pure fun r hr => List.mem_append_right given (h r hr)

theorem Enters.throw (e : Error) (refs : α → List TypeRef) : Enters lost given (throw e) refs := by
  intro t ht _
  exact ⟨ht, List.prefix_rfl⟩

theorem Enters.ofSearch (result : Except Error α) (refs : α → List TypeRef)
    (h : ∀ a, result = .ok a → refs a = []) : Enters lost given (ofSearch result) refs := by
  cases result with
  | ok a =>
    apply Enters.pure
    intro r hr
    simp [h a rfl] at hr
  | error e => exact Enters.throw e refs

/-- The references in a first result still point into the table when the next computation is done. -/
theorem Enters.bind {x : Resolve α} {f : α → Resolve β} {refs : α → List TypeRef} {refs' : β → List TypeRef}
    (hx : Enters lost given x refs) (hf : ∀ a, Enters lost (given ++ refs a) (f a) refs') :
    Enters lost given (x >>= f) refs' := by
  intro t ht hgiven
  -- Tables only grow, so that what was given before still points into them.
  have hfirst : Ends x t (fun a t' => t'.Sound lost ∧ t.GrowsTo t' ∧ ∀ r ∈ given ++ refs a, t'.Finds r)
      (fun t' => t'.Sound lost ∧ t <+: t') := by
    refine (hx t ht hgiven).mono ?_ (fun _ h => h)
    rintro a t' ⟨hsound, hgrows, hrefs⟩
    refine ⟨hsound, hgrows, ?_⟩
    intro r hr
    rcases List.mem_append.mp hr with hr | hr
    · exact (hgiven r hr).mono hgrows.isPrefix
    · exact hrefs r hr
  refine hfirst.bind ?_
  rintro a t' ⟨hsound, hgrows, hrefs⟩
  refine (hf a t' hsound hrefs).mono ?_ ?_
  · rintro b t'' ⟨hsound', hgrows', hrefs'⟩
    exact ⟨hsound', hgrows.trans hgrows', hrefs'⟩
  · rintro t'' ⟨hsound', hpre⟩
    exact ⟨hsound', hgrows.isPrefix.trans hpre⟩

/-- A list whose first item and whose rest are resolved one after the other. -/
theorem Enters.cons {x : Resolve α} {rest : Resolve (List β)} {item : α → β} {refs : α → List TypeRef}
    {refs' : β → List TypeRef} (hx : Enters lost given x refs)
    (hrest : ∀ given, Enters lost given rest (List.flatMap refs'))
    (hitem : ∀ a, ∀ r ∈ refs' (item a), r ∈ refs a) :
    Enters lost given (x >>= fun a => rest >>= fun others => Pure.pure (item a :: others))
      (List.flatMap refs') := by
  refine Enters.bind hx ?_
  intro a
  refine Enters.bind (hrest _) ?_
  intro others
  apply Enters.pure
  intro r hr
  rw [List.flatMap_cons, List.mem_append] at hr
  rcases hr with hr | hr
  · exact List.mem_append_left _ (List.mem_append_right _ (hitem a r hr))
  · exact List.mem_append_right _ hr

theorem Enters.mapM {γ : Type} {f : γ → Resolve α} {refs : α → List TypeRef} (xs : List γ)
    (hf : ∀ x ∈ xs, ∀ given, Enters lost given (f x) refs) :
    Enters lost given (xs.mapM f) (List.flatMap refs) := by
  induction xs generalizing given with
  | nil =>
    rw [List.mapM_nil]
    exact Enters.pure (by simp)
  | cons x rest ih =>
    rw [List.mapM_cons]
    refine Enters.cons (hf x List.mem_cons_self given) ?_ (fun a r hr => hr)
    intro given
    exact ih fun y hy => hf y (List.mem_cons_of_mem x hy)

end

end ServiceStubs.Resolution
