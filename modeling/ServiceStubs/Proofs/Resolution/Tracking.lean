import ServiceStubs.Proofs.Resolution.Alike
import ServiceStubs.Proofs.Resolution.Closure
import ServiceStubs.Proofs.Resolution.Search
import ServiceStubs.Proofs.Source.Serving

/-!
# What the table of declarations holds

The table grows in an order that depends on the class whose types are resolved. What it holds does not: a
declaration in the table is what its module declares, with the meanings that its names have when there is no
table at all.

* `bareMeaning` is the meaning of a name without a table;
* `Tracks` is the invariant of the table;
* `Follows` says that a computation keeps the invariant, and gives what it would give without the table;
* `resolveNamed_follows` is the case of a name, by induction on the budget, which is never used up.
-/

namespace ServiceStubs.Resolution

open Source

/-! ## Meanings without a table -/

/-- What a name means by the modules alone: a reference to the declaration that is found for it. -/
def bareMeaning (library : Library) (m : Module) (name : String) : Except Error DataType := do
  match ← locate library m name with
  | none => return .any
  | some location =>
    match location.module.definition? location.name with
    | none => return .any
    | some found =>
      return .named ⟨location.name, location.module.modulePath, kindOf found.definition⟩

/-- The resolver of names that has no table. -/
def bareResolve (library : Library) : NameResolver := fun m name =>
  ofSearch (bareMeaning library m name)

/-- The body of a declaration by the modules alone. -/
def bareBody (library : Library) (owner : Module) (definition : Definition) : Resolve DeclBody :=
  definitionBody ⟨library, true⟩ (bareResolve library) owner definition

/-- The computation gives a value whatever the table is, and leaves the table alone. -/
def Gives {α : Type} (x : Resolve α) (a : α) : Prop :=
  ∀ t, start x t = (.ok a, t)

theorem Gives.unique {α : Type} {x : Resolve α} {a a' : α} (h : Gives x a) (h' : Gives x a') : a = a' := by
  have heq := (h []).symm.trans (h' [])
  cases heq
  rfl

theorem Gives.bind {α β : Type} {x : Resolve α} {f : α → Resolve β} {a : α} {b : β} (hx : Gives x a)
    (hf : Gives (f a) b) : Gives (x >>= f) b := by
  intro t
  rw [start_bind, hx t]
  exact hf t

/-- What a name means where nothing is found for it. -/
theorem bareResolve_of_none {library : Library} {m : Module} {name : String}
    (h : locate library m name = .ok none) : Gives (bareResolve library m name) .any := by
  intro t
  unfold bareResolve bareMeaning
  rw [h]
  rfl

theorem bareResolve_of_undefined {library : Library} {m : Module} {name : String} {location : Location}
    (h : locate library m name = .ok (some location))
    (hfound : location.module.definition? location.name = none) : Gives (bareResolve library m name) .any := by
  intro t
  unfold bareResolve bareMeaning
  rw [h]
  dsimp only [bind, Except.bind]
  rw [hfound]
  rfl

theorem bareResolve_of_found {library : Library} {m : Module} {name : String} {location : Location}
    {found : Documented} (h : locate library m name = .ok (some location))
    (hfound : location.module.definition? location.name = some found) :
    Gives (bareResolve library m name)
      (.named ⟨location.name, location.module.modulePath, kindOf found.definition⟩) := by
  intro t
  unfold bareResolve bareMeaning
  rw [h]
  dsimp only [bind, Except.bind]
  rw [hfound]
  rfl

/-! ## What the table holds -/

/-- A place of the table is that of a declaration of a module: of its key and its kind, and with the body
and the documentation that the module gives it. -/
structure Explains (library : Library) (owner : Module) (found : Documented) (s : Slot) : Prop where
  holds : library.Holds owner
  defines : owner.definition? s.key.name = some found
  path : owner.modulePath = s.key.modulePath
  kind : s.kind = kindOf found.definition
  declaration : ∀ d, s.declaration = some d →
    d.key = s.key ∧ d.docs = found.docs ∧ Gives (bareBody library owner found.definition) d.body

/-- No key has two places, and modules of the library explain all places. -/
structure Tracks (library : Library) (t : Table) : Prop where
  distinct : (t.map (·.key)).Nodup
  explained : ∀ s ∈ t, ∃ owner found, Explains library owner found s

/-- The number of places that are claimed but not taken. -/
def Table.unfinished (t : Table) : Nat :=
  t.countP fun s => s.declaration.isNone

variable {library : Library} {load : String → Option String} {t t' : Table}

theorem tracks_nil (library : Library) : Tracks library [] :=
  ⟨List.nodup_nil, by simp⟩

theorem Table.unfinished_of_growsTo (h : t.GrowsTo t') : t'.unfinished = t.unfinished := by
  obtain ⟨new, rfl, hnew⟩ := h
  have hzero : List.countP (fun s : Slot => s.declaration.isNone) new = 0 := by
    rw [List.countP_eq_zero]
    intro s hs
    simpa [Option.isSome_iff_ne_none] using hnew s hs
  unfold Table.unfinished
  rw [List.countP_append, hzero, Nat.add_zero]

theorem Table.unfinished_claim (t : Table) (key : DeclKey) (kind : DeclKind) :
    (t.claim key kind).unfinished = t.unfinished + 1 := by
  unfold Table.unfinished Table.claim
  rw [List.countP_append]
  rfl

/-- The places that are claimed are no more than the library has declarations. -/
theorem Tracks.unfinished_le (ht : Tracks library t) (hserves : library.Serves load) :
    t.unfinished ≤ library.size := by
  have howned : ∀ key ∈ t.map (·.key), ∃ owner, library.Has owner ∧
      (owner.definition? key.name).isSome ∧ owner.modulePath = key.modulePath := by
    intro key hkey
    obtain ⟨s, hs, rfl⟩ := List.mem_map.mp hkey
    obtain ⟨owner, found, h⟩ := ht.explained s hs
    exact ⟨owner, h.holds.found, by rw [h.defines]; rfl, h.path⟩
  have hlength : t.length ≤ library.size := by
    simpa using hserves.bounded.length_le ht.distinct howned
  exact le_trans List.countP_le_length hlength

/-- A declaration of a module of the library can claim a place. -/
theorem Tracks.claim (ht : Tracks library t) {owner : Module} (howner : library.Holds owner) {name : String}
    {found : Documented} (hfound : owner.definition? name = some found)
    (hfresh : t.kind? ⟨name, owner.modulePath⟩ = none) :
    Tracks library (t.claim ⟨name, owner.modulePath⟩ (kindOf found.definition)) := by
  refine ⟨Table.nodup_claim ht.distinct hfresh _, ?_⟩
  intro s hs
  rcases List.mem_append.mp hs with hs | hs
  · exact ht.explained s hs
  · rw [List.mem_singleton] at hs
    subst hs
    exact ⟨owner, found, howner, hfound, rfl, rfl, by simp⟩

/-- A declaration that has claimed its place can take it with the body that its module gives it. -/
theorem Tracks.fill {new : Table} {owner : Module} (howner : library.Holds owner) {name : String}
    {found : Documented} (hfound : owner.definition? name = some found)
    (ht : Tracks library (t.claim ⟨name, owner.modulePath⟩ (kindOf found.definition) ++ new)) {body : DeclBody}
    (hbody : Gives (bareBody library owner found.definition) body) :
    Tracks library (t ++ ⟨⟨name, owner.modulePath⟩, kindOf found.definition,
      some ⟨name, owner.modulePath, body, found.docs⟩⟩ :: new) := by
  have hdistinct : ((t ++ ⟨⟨name, owner.modulePath⟩, kindOf found.definition,
      some ⟨name, owner.modulePath, body, found.docs⟩⟩ :: new : Table).map (·.key)).Nodup := by
    simpa [Table.claim] using ht.distinct
  refine ⟨hdistinct, ?_⟩
  intro s hs
  have hcases : s ∈ t.claim ⟨name, owner.modulePath⟩ (kindOf found.definition) ++ new ∨
      s = ⟨⟨name, owner.modulePath⟩, kindOf found.definition,
        some ⟨name, owner.modulePath, body, found.docs⟩⟩ := by
    simp only [List.mem_append, List.mem_cons, Table.claim] at hs ⊢
    tauto
  rcases hcases with hs | rfl
  · exact ht.explained s hs
  · refine ⟨owner, found, howner, hfound, rfl, rfl, ?_⟩
    rintro d ⟨⟩
    exact ⟨rfl, rfl, hbody⟩

theorem Tracks.dropUnfinished (ht : Tracks library t) : Tracks library t.dropUnfinished := by
  constructor
  · exact ht.distinct.sublist (List.filter_sublist.map _)
  · intro s hs
    exact ht.explained s (Table.mem_dropUnfinished.mp hs).1

/-- The kind of a place is that of the declaration that a module of the library has under its key. -/
theorem Tracks.kind?_eq (ht : Tracks library t) (hserves : library.Serves load) (hload : Identified load)
    {owner : Module} (howner : library.Holds owner) {name : String} {kind : DeclKind}
    (hkind : t.kind? ⟨name, owner.modulePath⟩ = some kind) :
    ∃ found, owner.definition? name = some found ∧ kind = kindOf found.definition := by
  obtain ⟨s, hs, hkey, rfl⟩ := (Table.kind?_eq_some_iff ht.distinct).mp hkind
  obtain ⟨owner', found, h⟩ := ht.explained s hs
  have hpath : owner'.modulePath = owner.modulePath := by rw [h.path, hkey]
  obtain rfl : owner' = owner := Library.Holds.eq hserves hload h.holds howner hpath
  have hfound := h.defines
  rw [hkey] at hfound
  exact ⟨found, hfound, h.kind⟩

/-- Two tables hold the same declaration under a key, if both hold one. -/
theorem Tracks.declaration_eq (ht : Tracks library t) (ht' : Tracks library t')
    (hserves : library.Serves load) (hload : Identified load) {d d' : Declaration}
    (hd : d ∈ t.declarations) (hd' : d' ∈ t'.declarations) (hkey : d.key = d'.key) : d = d' := by
  obtain ⟨s, hs, hsd⟩ := Table.mem_declarations.mp hd
  obtain ⟨s', hs', hsd'⟩ := Table.mem_declarations.mp hd'
  obtain ⟨owner, found, h⟩ := ht.explained s hs
  obtain ⟨owner', found', h'⟩ := ht'.explained s' hs'
  obtain ⟨hkeys, hdocs, hbody⟩ := h.declaration d hsd
  obtain ⟨hkeys', hdocs', hbody'⟩ := h'.declaration d' hsd'
  have hslots : s.key = s'.key := by rw [← hkeys, ← hkeys', hkey]
  -- Both modules have the identity in the key, so that they are one module with one declaration.
  have hpath : owner.modulePath = owner'.modulePath := by rw [h.path, h'.path, hslots]
  obtain rfl : owner = owner' := Library.Holds.eq hserves hload h.holds h'.holds hpath
  have hfound := h.defines
  rw [hslots, h'.defines] at hfound
  cases hfound
  have hbodies : d.body = d'.body := hbody.unique hbody'
  obtain ⟨name, modulePath, body, docs⟩ := d
  obtain ⟨name', modulePath', body', docs'⟩ := d'
  cases hkey
  cases hbodies
  rw [Declaration.mk.injEq]
  exact ⟨rfl, rfl, rfl, hdocs.trans hdocs'.symm⟩

/-! ## Computations that follow the modules -/

/-- As long as the budget and the places that are claimed exceed what the library declares, the computation
keeps the table explained and only adds finished declarations to it, and it gives what the other one gives
without a table. Where it fails, the table is explained all the same. -/
def Follows (library : Library) (budget : Nat) (α : Type) (x y : Resolve α) : Prop :=
  ∀ t : Table, Tracks library t → library.size < budget + t.unfinished →
    Ends x t (fun a t' => Tracks library t' ∧ t.GrowsTo t' ∧ Gives y a) (fun t' => Tracks library t')

theorem follows_pure {budget : Nat} {α : Type} {a : α} {y : Resolve α} (h : Gives y a) :
    Follows library budget α (pure a) y :=
  fun t ht _ => ⟨ht, .refl t, h⟩

theorem follows_throw {budget : Nat} {α : Type} (e : Error) (y : Resolve α) :
    Follows library budget α (throw e) y :=
  fun _ ht _ => ht

theorem follows_stepwise (library : Library) (budget : Nat) : Stepwise (Follows library budget) := by
  constructor
  · intro α a
    exact follows_pure fun t => rfl
  · intro α e
    exact follows_throw e _
  · intro α β x y f g hx hf t ht hbudget
    refine (hx t ht hbudget).bind ?_
    rintro a t' ⟨ht', hgrows, hy⟩
    have hbudget' : library.size < budget + t'.unfinished := by
      rw [Table.unfinished_of_growsTo hgrows]
      exact hbudget
    refine (hf a t' ht' hbudget').mono ?_ fun _ h => h
    rintro b t'' ⟨ht'', hgrows', hg⟩
    exact ⟨ht'', hgrows.trans hgrows', hy.bind hg⟩
  · intro α β result f g h
    cases result with
    | ok a => exact h a rfl
    | error e => exact follows_throw e _

/-- What nothing is known about means any value, or is refused. -/
theorem unknownMeaning_follows (scope : Scope) (m : Module) (name : String) {budget : Nat}
    {y : Resolve DataType} (h : Gives y .any) :
    Follows library budget _ (ofSearch (unknownMeaning scope m name)) y := by
  unfold unknownMeaning
  dsimp only
  split
  · exact follows_pure h
  · exact follows_throw _ y

section

variable {scope : Scope}

theorem holds_stays (hserves : library.Serves load) {m : Module} {name : String} {location : Location}
    (hm : library.Holds m) (h : locate library m name = .ok (some location)) :
    library.Holds location.module :=
  locate_stays (fun _ _ _ hm hload => hm.imported hserves hload) hm h

/-- Entering a declaration: its place is claimed, its body is resolved and it takes the place. -/
theorem enterDeclaration_follows (hserves : library.Serves load)
    (hscope : scope.library.find? = library.find?) {resolve : NameResolver} {budget : Nat}
    (hresolve : ∀ m name, library.Holds m →
      Follows library budget _ (resolve m name) (bareResolve library m name))
    {owner : Module} (howner : library.Holds owner) {name : String} {found : Documented}
    (hfound : owner.definition? name = some found) {t : Table} (ht : Tracks library t)
    (hfresh : t.kind? ⟨name, owner.modulePath⟩ = none)
    (hbudget : library.size < budget + 1 + t.unfinished) :
    Ends
      (do
        modify fun t => t.claim ⟨name, owner.modulePath⟩ (kindOf found.definition)
        let body ← definitionBody scope resolve owner found.definition
        modify fun t => t.finish ⟨name, owner.modulePath, body, found.docs⟩
        return DataType.named ⟨name, owner.modulePath, kindOf found.definition⟩)
      t
      (fun type t' => Tracks library t' ∧ t.GrowsTo t' ∧
        type = .named ⟨name, owner.modulePath, kindOf found.definition⟩)
      (fun t' => Tracks library t') := by
  let key : DeclKey := ⟨name, owner.modulePath⟩
  have hclaim : Tracks library (t.claim key (kindOf found.definition)) := ht.claim howner hfound hfresh
  have hplace : Ends (modify fun t => t.claim key (kindOf found.definition)) t
      (fun _ t' => t' = t.claim key (kindOf found.definition)) (fun t' => Tracks library t') := rfl
  refine hplace.bind ?_
  rintro _ _ rfl
  -- The place that is claimed makes up for what is taken from the budget.
  have hrest : library.size < budget + (t.claim key (kindOf found.definition)).unfinished := by
    rw [Table.unfinished_claim]
    omega
  have halike : Alike (Follows library budget) library.Holds scope ⟨library, true⟩ resolve
      (bareResolve library) :=
    { names := fun m hm => ⟨rfl, fun name => hresolve m name hm⟩
      same := fun m name _ => locate_congr hscope m name
      stays := fun m name location hm h => holds_stays hserves hm h }
  have hbody := definitionBody_related (follows_stepwise library budget) halike howner found.definition _
    hclaim hrest
  refine hbody.bind ?_
  rintro body t' ⟨ht', ⟨new, rfl, hnew⟩, hgives⟩
  have hfinish : Ends (modify fun t => t.finish ⟨name, owner.modulePath, body, found.docs⟩)
      (t.claim key (kindOf found.definition) ++ new)
      (fun _ t' => t' = t ++ ⟨key, kindOf found.definition,
        some ⟨name, owner.modulePath, body, found.docs⟩⟩ :: new)
      (fun t' => Tracks library t') :=
    Table.finish_claimed ht'.distinct
  refine hfinish.bind ?_
  rintro _ _ rfl
  refine ⟨Tracks.fill howner hfound ht' hgives, ⟨_, rfl, ?_⟩, rfl⟩
  intro s hs
  rcases List.mem_cons.mp hs with rfl | hs
  · rfl
  · exact hnew s hs

/-- A name means what it means without a table. -/
theorem resolveNamed_follows (hserves : library.Serves load) (hload : Identified load)
    (hscope : scope.library.find? = library.find?) (budget : Nat) :
    ∀ m name, library.Holds m →
      Follows library budget _ (resolveNamed scope budget m name) (bareResolve library m name) := by
  induction budget with
  | zero =>
    -- All declarations of the library would be on their way.
    intro m name _ t ht hbudget
    have hle := ht.unfinished_le hserves
    omega
  | succ budget ih =>
    intro m name hm
    have hlocate : locate scope.library m name = locate library m name := locate_congr hscope m name
    unfold resolveNamed resolveWith
    rw [hlocate]
    rcases hfind : locate library m name with e | _ | location
    · rw [ofSearch_error_bind]
      exact follows_throw e _
    · rw [ofSearch_ok_bind]
      exact unknownMeaning_follows scope m name (bareResolve_of_none hfind)
    · rw [ofSearch_ok_bind]
      have howner : library.Holds location.module := holds_stays hserves hm hfind
      intro t ht hbudget
      have hget : Ends get t (fun before t' => before = t ∧ t' = t) (fun t' => Tracks library t') := ⟨rfl, rfl⟩
      refine hget.bind ?_
      rintro _ _ ⟨rfl, rfl⟩
      dsimp only
      split
      · -- The key has its place already, finished or not.
        rename_i kind hkind
        obtain ⟨found, hfound, rfl⟩ := ht.kind?_eq hserves hload howner hkind
        exact ⟨ht, .refl _, bareResolve_of_found hfind hfound⟩
      · rename_i hfound
        exact unknownMeaning_follows scope m name (bareResolve_of_undefined hfind hfound) _ ht hbudget
      · rename_i found hfresh hfound
        refine (enterDeclaration_follows hserves hscope ih howner hfound ht hfresh hbudget).mono ?_ fun _ h => h
        rintro type t' ⟨ht', hgrows, rfl⟩
        exact ⟨ht', hgrows, bareResolve_of_found hfind hfound⟩

end

end ServiceStubs.Resolution
