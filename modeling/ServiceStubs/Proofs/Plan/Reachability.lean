import Mathlib.Tactic.Tauto
import ServiceStubs.Plan

/-!
# What clients need

A key is needed if the signature of an exposed method mentions it, or the declaration of a needed key does.
The breadth-first search finds these keys and no others, each of them once, for declarations that refer to
each other in any way.

* `LeadsTo` and `Reaches` say what is needed;
* `closeKeys_sound` and `closeKeys_closed` are the two halves of the search;
* `mem_reachableKeys_iff` joins them;
* `mem_plannedDeclarations_iff` says which declarations are planned.
-/

namespace ServiceStubs

/-! ## Needed keys -/

/-- The declaration of the first key mentions the second one. -/
def LeadsTo (table : List Declaration) (key key' : DeclKey) : Prop :=
  ∃ d, findDeclaration table key = some d ∧ key' ∈ d.references.map TypeRef.key

/-- All declarations of some services. Of several with one key the first counts. -/
def allDeclarations (services : List Service) : List Declaration :=
  services.flatMap Service.declarations

/-- Some service declares the key. -/
def Declared (services : List Service) (key : DeclKey) : Prop :=
  ∃ s ∈ services, ∃ d ∈ s.declarations, d.key = key

/-- The key is mentioned in the signature of an exposed method, or in a declaration whose key is reached. -/
inductive Reaches (services : List Service) : DeclKey → Prop where
  | signature {s : Service} {r : TypeRef} (hs : s ∈ services) (hr : r ∈ s.exposedReferences) :
      Reaches services r.key
  | body {key key' : DeclKey} (hkey : Reaches services key)
      (hstep : LeadsTo (allDeclarations services) key key') : Reaches services key'

theorem findDeclaration_isSome_iff {table : List Declaration} {key : DeclKey} :
    (findDeclaration table key).isSome ↔ ∃ d ∈ table, d.key = key := by
  unfold findDeclaration
  rw [List.find?_isSome]
  simp

theorem declared_iff {services : List Service} {key : DeclKey} :
    Declared services key ↔ (findDeclaration (allDeclarations services) key).isSome := by
  rw [findDeclaration_isSome_iff]
  unfold Declared allDeclarations
  constructor
  · rintro ⟨s, hs, d, hd, hkey⟩
    exact ⟨d, List.mem_flatMap.mpr ⟨s, hs, hd⟩, hkey⟩
  · rintro ⟨d, hd, hkey⟩
    obtain ⟨s, hs, hd⟩ := List.mem_flatMap.mp hd
    exact ⟨s, hs, d, hd, hkey⟩

/-- Where a key is declared in one way only, every declaration leads on, not just the first one. -/
theorem Reaches.mentioned {services : List Service}
    (hsame : ∀ d ∈ allDeclarations services, ∀ d' ∈ allDeclarations services, d.key = d'.key → d = d')
    {d : Declaration} (hd : d ∈ allDeclarations services) (hkey : Reaches services d.key) {r : TypeRef}
    (hr : r ∈ d.references) : Reaches services r.key := by
  obtain ⟨d', hfind⟩ := Option.isSome_iff_exists.mp (findDeclaration_isSome_iff.mpr ⟨d, hd, rfl⟩)
  have heq : d' = d := hsame d' (mem_of_findDeclaration hfind) d hd (key_eq_of_findDeclaration hfind)
  subst heq
  exact .body hkey ⟨d', hfind, List.mem_map_of_mem hr⟩

/-! ## The search -/

section Steps

variable {table : List Declaration} {seen queue : List DeclKey} {key : DeclKey}

theorem closeKeys_seen (h : key ∈ seen) : closeKeys table seen (key :: queue) = closeKeys table seen queue := by
  rw [closeKeys, if_pos h]

theorem closeKeys_found {d : Declaration} (h : key ∉ seen) (hfind : findDeclaration table key = some d) :
    closeKeys table seen (key :: queue) = closeKeys table (seen ++ [key]) (queue ++ d.references.map TypeRef.key) := by
  rw [closeKeys, if_neg h]
  split
  · rename_i d' hd'
    rw [hfind] at hd'
    cases hd'
    rfl
  · rename_i hnone
    rw [hfind] at hnone
    cases hnone

theorem closeKeys_missing (h : key ∉ seen) (hfind : findDeclaration table key = none) :
    closeKeys table seen (key :: queue) = closeKeys table (seen ++ [key]) queue := by
  rw [closeKeys, if_neg h]
  split
  · rename_i d hd
    rw [hfind] at hd
    cases hd
  · rfl

end Steps

/-- What has been seen stays seen, and the whole queue will be. -/
theorem mem_closeKeys (table : List Declaration) (seen queue : List DeclKey) :
    ∀ key ∈ seen ++ queue, key ∈ closeKeys table seen queue := by
  fun_induction closeKeys table seen queue with
  | case1 seen => simp
  | case2 seen key queue hseen ih =>
    -- The key that is dropped has been seen before, so that nothing gets lost.
    intro k hk
    apply ih
    simp only [List.mem_append, List.mem_cons] at hk ⊢
    rcases hk with hk | rfl | hk
    · exact .inl hk
    · exact .inl hseen
    · exact .inr hk
  | case3 seen key queue hseen d hfind ih =>
    intro k hk
    apply ih
    simp only [List.mem_append, List.mem_cons] at hk ⊢
    tauto
  | case4 seen key queue hseen hfind ih =>
    intro k hk
    apply ih
    simp only [List.mem_append, List.mem_cons] at hk ⊢
    tauto

theorem nodup_closeKeys (table : List Declaration) {seen : List DeclKey} (queue : List DeclKey)
    (h : seen.Nodup) : (closeKeys table seen queue).Nodup := by
  have hnew : ∀ {seen : List DeclKey} {key : DeclKey}, seen.Nodup → key ∉ seen → (seen ++ [key]).Nodup := by
    intro seen key hseen hkey
    rw [List.nodup_append]
    refine ⟨hseen, by simp, ?_⟩
    intro a ha b hb
    rw [List.mem_singleton] at hb
    subst hb
    exact fun heq => hkey (heq ▸ ha)
  fun_induction closeKeys table seen queue with
  | case1 seen => exact h
  | case2 seen key queue hseen ih => exact ih h
  | case3 seen key queue hseen d hfind ih => exact ih (hnew h hseen)
  | case4 seen key queue hseen hfind ih => exact ih (hnew h hseen)

/-- The search finds nothing but what the queue leads to. -/
theorem closeKeys_sound {table : List Declaration} {good : DeclKey → Prop}
    (hstep : ∀ key key', good key → LeadsTo table key key' → good key') {seen queue : List DeclKey}
    (h : ∀ key ∈ seen ++ queue, good key) : ∀ key ∈ closeKeys table seen queue, good key := by
  fun_induction closeKeys table seen queue with
  | case1 seen => simpa using h
  | case2 seen key queue hseen ih =>
    apply ih
    intro k hk
    apply h
    simp only [List.mem_append, List.mem_cons] at hk ⊢
    tauto
  | case3 seen key queue hseen d hfind ih =>
    -- What joins the queue is mentioned by the declaration of a key that was in it.
    apply ih
    have hkey : good key := h key (by simp)
    intro k hk
    simp only [List.mem_append, List.mem_singleton] at hk
    rcases hk with (hk | rfl) | hk | hk
    · exact h k (by simp [hk])
    · exact hkey
    · exact h k (by simp [hk])
    · exact hstep key k hkey ⟨d, hfind, hk⟩
  | case4 seen key queue hseen hfind ih =>
    apply ih
    intro k hk
    apply h
    simp only [List.mem_append, List.mem_cons] at hk ⊢
    tauto

/-- Whatever the declaration of a key found mentions has been found too, provided that it has been seen or
is waiting for all keys seen at the beginning. -/
theorem closeKeys_closed {table : List Declaration} {seen queue : List DeclKey}
    (h : ∀ key ∈ seen, ∀ key', LeadsTo table key key' → key' ∈ seen ++ queue) :
    ∀ key ∈ closeKeys table seen queue, ∀ key', LeadsTo table key key' →
      key' ∈ closeKeys table seen queue := by
  fun_induction closeKeys table seen queue with
  | case1 seen => simpa using h
  | case2 seen key queue hseen ih =>
    apply ih
    intro k hk k' hstep
    have hk' := h k hk k' hstep
    simp only [List.mem_append, List.mem_cons] at hk' ⊢
    rcases hk' with hk' | rfl | hk'
    · exact .inl hk'
    · exact .inl hseen
    · exact .inr hk'
  | case3 seen key queue hseen d hfind ih =>
    apply ih
    intro k hk k' hstep
    simp only [List.mem_append, List.mem_singleton] at hk ⊢
    rcases hk with hk | rfl
    · have hk' := h k hk k' hstep
      simp only [List.mem_append, List.mem_cons] at hk'
      tauto
    · -- The key itself is new, and all that its declaration mentions waits in the queue.
      obtain ⟨d', hfind', hmem⟩ := hstep
      rw [hfind] at hfind'
      cases hfind'
      exact .inr (.inr hmem)
  | case4 seen key queue hseen hfind ih =>
    apply ih
    intro k hk k' hstep
    simp only [List.mem_append, List.mem_singleton] at hk ⊢
    rcases hk with hk | rfl
    · have hk' := h k hk k' hstep
      simp only [List.mem_append, List.mem_cons] at hk'
      tauto
    · obtain ⟨d', hfind', -⟩ := hstep
      rw [hfind] at hfind'
      cases hfind'

/-- The search finds what is needed in every table in which the same declarations are found. -/
theorem mem_reachableKeys_of_alike {table : List Declaration} {services : List Service}
    (halike : ∀ key, findDeclaration table key = findDeclaration (allDeclarations services) key) (key : DeclKey) :
    key ∈ reachableKeys table services ↔ Reaches services key := by
  have hleads : ∀ k k', LeadsTo table k k' ↔ LeadsTo (allDeclarations services) k k' := by
    intro k k'
    unfold LeadsTo
    rw [halike]
  have hqueue : ∀ k ∈ services.flatMap fun s => s.exposedReferences.map TypeRef.key, Reaches services k := by
    intro k hk
    obtain ⟨s, hs, hk⟩ := List.mem_flatMap.mp hk
    obtain ⟨r, hr, rfl⟩ := List.mem_map.mp hk
    exact .signature hs hr
  unfold reachableKeys
  constructor
  · intro hkey
    exact closeKeys_sound (fun k k' hk hstep => .body hk ((hleads k k').mp hstep)) (by simpa using hqueue) key hkey
  · intro hkey
    -- What is needed is found by the steps that make it needed, since the result of the search is closed.
    induction hkey with
    | signature hs hr =>
      apply mem_closeKeys
      exact List.mem_flatMap.mpr ⟨_, hs, List.mem_map_of_mem hr⟩
    | body _ hstep ih => exact closeKeys_closed (by simp) _ ih _ ((hleads _ _).mpr hstep)

theorem mem_reachableKeys_iff (services : List Service) (key : DeclKey) :
    key ∈ reachableKeys (allDeclarations services) services ↔ Reaches services key :=
  mem_reachableKeys_of_alike (fun _ => rfl) key

theorem nodup_reachableKeys (table : List Declaration) (services : List Service) :
    (reachableKeys table services).Nodup :=
  nodup_closeKeys table _ List.nodup_nil

/-! ## Planned declarations -/

theorem mem_plannedDeclarations_iff (services : List Service) (d : Declaration) :
    d ∈ plannedDeclarations services ↔
      Reaches services d.key ∧ findDeclaration (allDeclarations services) d.key = some d := by
  have hplanned : plannedDeclarations services = (reachableKeys (allDeclarations services) services).filterMap
      (findDeclaration (allDeclarations services)) := rfl
  rw [hplanned, List.mem_filterMap]
  constructor
  · rintro ⟨key, hkey, hfind⟩
    have heq := key_eq_of_findDeclaration hfind
    subst heq
    exact ⟨(mem_reachableKeys_iff services d.key).mp hkey, hfind⟩
  · rintro ⟨hreach, hfind⟩
    exact ⟨d.key, (mem_reachableKeys_iff services d.key).mpr hreach, hfind⟩

theorem keys_filterMap_findDeclaration (table : List Declaration) (keys : List DeclKey) :
    ((keys.filterMap (findDeclaration table)).map Declaration.key).Sublist keys := by
  induction keys with
  | nil => exact List.Sublist.refl _
  | cons key rest ih =>
    cases hfind : findDeclaration table key with
    | none =>
      rw [List.filterMap_cons_none hfind]
      exact ih.cons key
    | some d =>
      rw [List.filterMap_cons_some hfind, List.map_cons, key_eq_of_findDeclaration hfind]
      exact ih.cons_cons key

theorem plannedDeclarations_singleton (s : Service) :
    plannedDeclarations [s] = (reachableKeys s.declarations [s]).filterMap (findDeclaration s.declarations) := by
  unfold plannedDeclarations
  rw [List.flatMap_singleton]

/-- All that clients need is the one declaration that they mention, if it mentions nothing itself. -/
theorem plannedDeclarations_leaf {s : Service} {d : Declaration}
    (hmentioned : s.exposedReferences.map TypeRef.key = [d.key])
    (hfind : findDeclaration s.declarations d.key = some d) (hleaf : d.references = []) :
    plannedDeclarations [s] = [d] := by
  have hkeys : reachableKeys s.declarations [s] = [d.key] := by
    unfold reachableKeys
    rw [List.flatMap_singleton, hmentioned, closeKeys_found (by simp) hfind, hleaf]
    simp [closeKeys]
  rw [plannedDeclarations_singleton, hkeys, List.filterMap_cons_some hfind, List.filterMap_nil]

/-- A key is planned once. -/
theorem nodup_plannedDeclarations (services : List Service) :
    ((plannedDeclarations services).map Declaration.key).Nodup :=
  (nodup_reachableKeys _ services).sublist (keys_filterMap_findDeclaration _ _)

end ServiceStubs
