import Mathlib.Data.List.Flatten
import ServiceStubs.Proofs.Plan.Order
import ServiceStubs.Proofs.Resolution.Closure

/-!
# What one service leads to

A client that holds its declarations itself looks for them among those of its own service. The search comes to an end
in a number of turns that can be told beforehand, whatever the declarations mention, and in a closed service it misses
nothing that is mentioned on the way.

* `searchTurn` is one turn of the search, and `closeKeys_searchTurn` and `turnsLeft_searchTurn_lt` are what it does;
* `searchTurn_iterate` says when the search has ended, and with what;
* `mem_reachableDeclarations_iff` says which declarations one service leads to;
* `Service.Closed.named_once` says that what they mention is found among them.
-/

namespace ServiceStubs

/-! ## Turns of the search -/

/-- The keys that have been seen, and those that wait. -/
structure SearchState where
  seen : List DeclKey
  queue : List DeclKey

variable (table : List Declaration)

/-- In a turn the first key that waits is taken. If it is new it has been seen now, and what its declaration mentions
waits behind the others. -/
def searchTurn (state : SearchState) : SearchState :=
  match state.queue with
  | [] => state
  | key :: queue =>
    if key ∈ state.seen then ⟨state.seen, queue⟩
    else ⟨state.seen ++ [key],
      queue ++ ((findDeclaration table key).toList.flatMap Declaration.references).map TypeRef.key⟩

/-- How many turns can be left: one for each key that waits, and one for each mention in a declaration that has not
been opened. -/
def turnsLeft (state : SearchState) : Nat :=
  state.queue.length + ((unseen table state.seen).flatMap Declaration.references).length

variable {table}

theorem length_flatMap_references_le {declarations declarations' : List Declaration}
    (h : declarations.Sublist declarations') :
    (declarations.flatMap Declaration.references).length ≤ (declarations'.flatMap Declaration.references).length :=
  (h.flatMap Declaration.references).length_le

/-- Opening a declaration takes away as many mentions as it adds to the queue. -/
theorem mentions_unseen_append {seen : List DeclKey} {d : Declaration} (hd : d ∈ table) (hnew : d.key ∉ seen) :
    d.references.length + ((unseen table (seen ++ [d.key])).flatMap Declaration.references).length ≤
      ((unseen table seen).flatMap Declaration.references).length := by
  have hunseen : d ∈ unseen table seen := List.mem_filter.mpr ⟨hd, by simpa using hnew⟩
  obtain ⟨before, after, hsplit⟩ := List.append_of_mem hunseen
  have hbefore := length_flatMap_references_le (List.filter_sublist (p := fun d' => d'.key ≠ d.key) (l := before))
  have hafter := length_flatMap_references_le (List.filter_sublist (p := fun d' => d'.key ≠ d.key) (l := after))
  rw [unseen_append, hsplit, List.filter_append, List.filter_cons_of_neg (by simp)]
  simp only [List.flatMap_append, List.flatMap_cons, List.length_append]
  omega

theorem mentions_unseen_le (table : List Declaration) (seen : List DeclKey) (key : DeclKey) :
    ((unseen table (seen ++ [key])).flatMap Declaration.references).length ≤
      ((unseen table seen).flatMap Declaration.references).length := by
  rw [unseen_append]
  exact length_flatMap_references_le List.filter_sublist

/-- A turn leaves the result as it is. -/
theorem closeKeys_searchTurn (state : SearchState) :
    closeKeys table (searchTurn table state).seen (searchTurn table state).queue =
      closeKeys table state.seen state.queue := by
  obtain ⟨seen, queue⟩ := state
  cases queue with
  | nil => rfl
  | cons key queue =>
    unfold searchTurn
    by_cases hseen : key ∈ seen
    · rw [closeKeys_seen hseen]
      simp only [if_pos hseen]
    · simp only [if_neg hseen]
      rcases hfind : findDeclaration table key with _ | d
      · rw [closeKeys_missing hseen hfind]
        simp
      · rw [closeKeys_found hseen hfind]
        simp

/-- A turn that finds something waiting leaves fewer turns. -/
theorem turnsLeft_searchTurn_lt (table : List Declaration) {state : SearchState} (hwaiting : state.queue ≠ []) :
    turnsLeft table (searchTurn table state) < turnsLeft table state := by
  obtain ⟨seen, queue⟩ := state
  cases queue with
  | nil => exact absurd rfl hwaiting
  | cons key queue =>
    unfold searchTurn turnsLeft
    by_cases hseen : key ∈ seen
    · simp only [if_pos hseen, List.length_cons]
      omega
    · simp only [if_neg hseen, List.length_cons, List.length_append, List.length_map]
      rcases hfind : findDeclaration table key with _ | d
      · have hle := mentions_unseen_le table seen key
        simp only [Option.toList_none, List.flatMap_nil, List.length_nil]
        omega
      · -- The mentions that join the queue are those of a declaration that has not been opened before.
        have hkey : d.key = key := key_eq_of_findDeclaration hfind
        subst hkey
        have hle := mentions_unseen_append (mem_of_findDeclaration hfind) hseen
        simp only [Option.toList_some, List.flatMap_cons, List.flatMap_nil, List.append_nil]
        omega

/-- The search has ended when no turns are left, and then nothing waits; cycles of mentions do not matter. -/
theorem searchTurn_iterate {n : Nat} {state : SearchState} (h : turnsLeft table state ≤ n) :
    (searchTurn table)^[n] state = ⟨closeKeys table state.seen state.queue, []⟩ := by
  induction n generalizing state with
  | zero =>
    obtain ⟨seen, queue⟩ := state
    have hnil : queue = [] := List.eq_nil_of_length_eq_zero (by simp only [turnsLeft] at h; omega)
    subst hnil
    rw [closeKeys]
    rfl
  | succ n ih =>
    by_cases hwaiting : state.queue = []
    · -- Nothing waits any more, and further turns change nothing.
      obtain ⟨seen, queue⟩ := state
      subst hwaiting
      rw [Function.iterate_fixed rfl, closeKeys]
    · have hless := turnsLeft_searchTurn_lt table hwaiting
      rw [Function.iterate_succ_apply, ih (by omega), closeKeys_searchTurn]

/-! ## Declarations of one service -/

variable {s : Service}

/-- In a service that declares no key twice, it does not matter which end the search for a key begins at. -/
theorem findDeclaration_reverse (hdistinct : (s.declarations.map Declaration.key).Nodup) (key : DeclKey) :
    findDeclaration s.declarations.reverse key = findDeclaration (allDeclarations [s]) key := by
  have hall : allDeclarations [s] = s.declarations := List.append_nil _
  rw [hall]
  refine find?_perm (List.reverse_perm _) ?_
  intro d hd d' hd' htest htest'
  exact List.inj_on_of_nodup_map hdistinct (List.mem_reverse.mp hd) (List.mem_reverse.mp hd')
    ((of_decide_eq_true htest).trans (of_decide_eq_true htest').symm)

/-- A declared key finds its declaration. -/
theorem findDeclaration_of_mem (hdistinct : (s.declarations.map Declaration.key).Nodup) {d : Declaration}
    (hd : d ∈ s.declarations) : findDeclaration s.declarations.reverse d.key = some d := by
  obtain ⟨d', hfind⟩ := Option.isSome_iff_exists.mp
    (findDeclaration_isSome_iff.mpr ⟨d, List.mem_reverse.mpr hd, rfl⟩)
  have hd' : d' ∈ s.declarations := List.mem_reverse.mp (mem_of_findDeclaration hfind)
  rw [hfind, List.inj_on_of_nodup_map hdistinct hd' hd (key_eq_of_findDeclaration hfind)]

/-- What the exposed methods lead to is found, and nothing else. -/
theorem mem_reachableDeclarations_iff (hdistinct : (s.declarations.map Declaration.key).Nodup) (d : Declaration) :
    d ∈ s.reachableDeclarations ↔ d ∈ s.declarations ∧ Reaches [s] d.key := by
  have hkeys : ∀ key, key ∈ reachableKeys s.declarations.reverse [s] ↔ Reaches [s] key :=
    mem_reachableKeys_of_alike (findDeclaration_reverse hdistinct)
  have hreachable : s.reachableDeclarations =
      (reachableKeys s.declarations.reverse [s]).filterMap (findDeclaration s.declarations.reverse) := rfl
  rw [hreachable, List.mem_filterMap]
  constructor
  · rintro ⟨key, hkey, hfind⟩
    have heq : d.key = key := key_eq_of_findDeclaration hfind
    subst heq
    exact ⟨List.mem_reverse.mp (mem_of_findDeclaration hfind), (hkeys d.key).mp hkey⟩
  · rintro ⟨hd, hreach⟩
    exact ⟨d.key, (hkeys d.key).mpr hreach, findDeclaration_of_mem hdistinct hd⟩

/-- A key is found once. -/
theorem nodup_reachableDeclarations (s : Service) : (s.reachableDeclarations.map Declaration.key).Nodup :=
  (nodup_reachableKeys _ [s]).sublist (keys_filterMap_findDeclaration _ _)

/-- In a closed service, what an exposed signature mentions or one of the declarations found is one of these. -/
theorem Service.Closed.named_once (hclosed : s.Closed) {r : TypeRef}
    (hr : r ∈ s.exposedReferences ∨ ∃ d ∈ s.reachableDeclarations, r ∈ d.references) :
    ∃ d ∈ s.reachableDeclarations, d.key = r.key ∧ d.body.kind = r.kind ∧
      ∀ d' ∈ s.reachableDeclarations, d'.key = r.key → d' = d := by
  have hall : allDeclarations [s] = s.declarations := List.append_nil _
  have hmentioned : r ∈ s.references ∧ Reaches [s] r.key := by
    rcases hr with hr | ⟨d, hd, hr⟩
    · obtain ⟨m, hm, hmr⟩ := List.mem_flatMap.mp hr
      refine ⟨List.mem_append_left _ (List.mem_flatMap.mpr ⟨m, List.mem_of_mem_filter hm, hmr⟩), ?_⟩
      exact .signature List.mem_cons_self hr
    · obtain ⟨hd, hreach⟩ := (mem_reachableDeclarations_iff hclosed.distinct d).mp hd
      refine ⟨List.mem_append_right _ (List.mem_flatMap.mpr ⟨d, hd, hr⟩), ?_⟩
      refine hreach.mentioned ?_ (hall ▸ hd) hr
      rw [hall]
      intro d hd d' hd' hkey
      exact List.inj_on_of_nodup_map hclosed.distinct hd hd' hkey
  obtain ⟨hr, hreach⟩ := hmentioned
  obtain ⟨d, hd, hkey, hkind⟩ := hclosed.declared r hr
  -- Being closed gives the declaration, having been reached puts it among those found, and keys are told apart.
  refine ⟨d, (mem_reachableDeclarations_iff hclosed.distinct d).mpr ⟨hd, hkey ▸ hreach⟩, hkey, hkind, ?_⟩
  intro d' hd' hkey'
  obtain ⟨hd', -⟩ := (mem_reachableDeclarations_iff hclosed.distinct d').mp hd'
  exact List.inj_on_of_nodup_map hclosed.distinct hd' hd (hkey'.trans hkey.symm)

end ServiceStubs
