import Mathlib.Data.List.Nodup
import Mathlib.Logic.Relation
import ServiceStubs.Proofs.Resolution.Closure
import ServiceStubs.Target.Python

/-!
# Values that need no conversion

JSON knows neither records, enums and dates, nor keys other than text. Python clients convert what arrives where
`hydrated?` gives an expression for it. It looks through everything but aliases, which it takes to be usable as they
arrive whatever they stand for, and it does not look at the keys of dictionaries.

* `DataType.inner?` is one layer that is looked through, and `DataType.Inside` any number of them;
* `hydrated?_eq_none_iff` says what `hydrated?` finds;
* `Service.InView` looks through aliases as well, and `Usable` says that nothing in view needs a conversion;
* `usable_iff` compares the two.
-/

namespace ServiceStubs

/-! ## Layers of a type -/

/-- The type of what a value holds: the items of an array, the values of a map, the result of a promise, and what a
nullable union has besides null. -/
def DataType.inner? : DataType → Option DataType
  | .array item => some item
  | .map _ value => some value
  | .promise result => some result
  | .union members => ServiceStubs.nullableInner? members
  | _ => none

/-- What comes into sight in a type, layer by layer. -/
def DataType.Inside : DataType → DataType → Prop :=
  Relation.ReflTransGen fun t t' => t.inner? = some t'

theorem DataType.sizeOf_lt_of_inner? {t t' : DataType} (h : t.inner? = some t') : sizeOf t' < sizeOf t := by
  unfold DataType.inner? at h
  split at h
  · cases h
    simp
  · cases h
    rw [DataType.map.sizeOf_spec]
    omega
  · cases h
    simp
  · exact sizeOf_lt_of_nullableInner? h
  · cases h

theorem DataType.references_of_inner? {t t' : DataType} (h : t.inner? = some t') : t'.references ⊆ t.references := by
  unfold DataType.inner? at h
  split at h
  · cases h
    rw [DataType.references.eq_1]
    exact List.Subset.refl _
  · cases h
    rw [DataType.references.eq_2]
    exact List.subset_append_right _ _
  · cases h
    rw [DataType.references.eq_3]
    exact List.Subset.refl _
  · rw [DataType.references.eq_4]
    intro r hr
    exact List.mem_flatMap.mpr ⟨t', mem_of_nullableInner? h, hr⟩
  · cases h

theorem DataType.Inside.references {t u : DataType} (h : t.Inside u) : u.references ⊆ t.references := by
  induction h with
  | refl => exact List.Subset.refl _
  | tail _ hinner ih => exact List.Subset.trans (DataType.references_of_inner? hinner) ih

/-- In sight is the type itself, and what is in sight below its first layer. -/
theorem DataType.inside_iff {t u : DataType} : t.Inside u ↔ t = u ∨ ∃ t', t.inner? = some t' ∧ t'.Inside u :=
  Relation.ReflTransGen.cases_head_iff

theorem DataType.forall_inside_iff {P : DataType → Prop} (t : DataType) :
    (∀ u, t.Inside u → P u) ↔ P t ∧ ∀ t', t.inner? = some t' → ∀ u, t'.Inside u → P u := by
  constructor
  · intro h
    exact ⟨h t .refl, fun t' hinner u hu => h u (.head hinner hu)⟩
  · rintro ⟨htop, hbelow⟩ u hu
    rcases DataType.inside_iff.mp hu with rfl | ⟨t', hinner, hu⟩
    · exact htop
    · exact hbelow t' hinner u hu

/-- Nothing else is in sight where there is no layer to look through. -/
theorem DataType.Inside.eq_of_inner? {t u : DataType} (h : t.Inside u) (hinner : t.inner? = none) : u = t := by
  rcases DataType.inside_iff.mp h with rfl | ⟨t', hsome, -⟩
  · rfl
  · rw [hinner] at hsome
    cases hsome

/-! ## Layers with aliases -/

/-- The reference stands for the type. -/
def Service.Aliases (s : Service) (r : TypeRef) (type : DataType) : Prop :=
  ∃ d ∈ s.declarations, d.key = r.key ∧ d.body = .alias type

/-- In a closed service, a reference to an alias stands for exactly one type. -/
theorem Service.Closed.existsUnique_aliases {s : Service} (h : s.Closed) {r : TypeRef} (hr : s.Declares r)
    (hkind : r.kind = .alias) : ∃! type, s.Aliases r type := by
  obtain ⟨d, hd, hkey, hbody⟩ := hr
  rw [hkind] at hbody
  cases hd' : d.body with
  | enumeration cases =>
    rw [hd'] at hbody
    cases hbody
  | record fields =>
    rw [hd'] at hbody
    cases hbody
  | «alias» type =>
    refine ⟨type, ⟨d, hd, hkey, hd'⟩, ?_⟩
    rintro type' ⟨e, he, hkey', he'⟩
    obtain rfl : e = d := List.inj_on_of_nodup_map h.distinct he hd (hkey'.trans hkey.symm)
    rw [hd'] at he'
    cases he'
    rfl

/-- One layer, which can also be the body of an alias. -/
def Service.LooksThrough (s : Service) (t t' : DataType) : Prop :=
  t.inner? = some t' ∨ ∃ r, t = .named r ∧ r.kind = .alias ∧ s.Aliases r t'

/-- What comes into sight in a type, layer by layer, when aliases are opened. -/
def Service.InView (s : Service) : DataType → DataType → Prop :=
  Relation.ReflTransGen s.LooksThrough

/-- What is in view is inside of the type, or in view in the body of an alias that is. -/
theorem Service.inView_iff {s : Service} {t u : DataType} :
    s.InView t u ↔ t.Inside u ∨
      ∃ r type, t.Inside (.named r) ∧ r.kind = .alias ∧ s.Aliases r type ∧ s.InView type u := by
  have hinside : ∀ {t u : DataType}, t.Inside u → s.InView t u := fun h =>
    Relation.ReflTransGen.mono (fun _ _ hinner => .inl hinner) _ _ h
  constructor
  · intro h
    induction h using Relation.ReflTransGen.head_induction_on with
    | refl => exact .inl .refl
    | head hlayer hrest ih =>
      rcases hlayer with hinner | ⟨r, rfl, hkind, htype⟩
      · rcases ih with hu | ⟨r, type, hr, hkind, htype, hu⟩
        · exact .inl (.head hinner hu)
        · exact .inr ⟨r, type, .head hinner hr, hkind, htype, hu⟩
      · exact .inr ⟨r, _, .refl, hkind, htype, hrest⟩
  · rintro (hu | ⟨r, type, hr, hkind, htype, hu⟩)
    · exact hinside hu
    · exact (hinside hr).trans (.head (.inr ⟨r, rfl, hkind, htype⟩) hu)

namespace Python

/-! ## What is converted -/

/-- JSON has another form for the values of the type: records and enums arrive as mappings and plain values, dates
as text. -/
def NeedsConversion : DataType → Prop
  | .date => True
  | .named r => r.kind ≠ .alias
  | _ => False

/-- The first layer is not converted itself, but what is below it may be. -/
theorem hydrated?_inner {t t' : DataType} (h : t.inner? = some t') (expr : String) (depth : Nat) :
    ¬NeedsConversion t ∧
      ∃ expr' depth', hydrated? expr depth t = none ↔ hydrated? expr' depth' t' = none := by
  -- Lists and maps are converted item by item, under a name of their own; other layers are passed through.
  unfold DataType.inner? at h
  split at h
  · cases h
    refine ⟨id, "v" ++ toString depth, depth + 1, ?_⟩
    rw [hydrated?, Option.map_eq_none_iff]
  · cases h
    refine ⟨id, "v" ++ toString depth, depth + 1, ?_⟩
    rw [hydrated?, Option.map_eq_none_iff]
  · cases h
    refine ⟨id, expr, depth, ?_⟩
    rw [hydrated?]
  · refine ⟨id, expr, depth, ?_⟩
    rw [hydrated?]
    split
    · rename_i inner hinner
      rw [h] at hinner
      cases hinner
      exact Option.map_eq_none_iff
    · rename_i hnone
      rw [h] at hnone
      cases hnone
  · cases h

/-- Where there is no layer to look through, there is an expression exactly for what needs it. -/
theorem hydrated?_of_inner?_eq_none {t : DataType} (h : t.inner? = none) (expr : String) (depth : Nat) :
    hydrated? expr depth t = none ↔ ¬NeedsConversion t := by
  cases t with
  | array item => cases h
  | map key value => cases h
  | promise result => cases h
  | union members =>
    have hnone : ServiceStubs.nullableInner? members = none := h
    refine iff_of_true ?_ id
    rw [hydrated?]
    split
    · rename_i inner hinner
      rw [hnone] at hinner
      cases hinner
    · rfl
  | named ref =>
    rw [hydrated?]
    cases hkind : ref.kind with
    | record => exact iff_of_false (Option.some_ne_none _) fun hnot => hnot (by simp [NeedsConversion, hkind])
    | enumeration => exact iff_of_false (Option.some_ne_none _) fun hnot => hnot (by simp [NeedsConversion, hkind])
    | «alias» => exact iff_of_true rfl fun hneeds => hneeds hkind
  | date =>
    rw [hydrated?]
    exact iff_of_false (Option.some_ne_none _) fun hnot => hnot trivial
  | string | integer | double | float | boolean | void | null | any | record fields =>
    rw [hydrated?]
    exact iff_of_true rfl id

/-- A type has an expression for its values if and only if something inside needs a conversion, without a look into
aliases. -/
theorem hydrated?_eq_none_iff (expr : String) (depth : Nat) (t : DataType) :
    hydrated? expr depth t = none ↔ ∀ u, t.Inside u → ¬NeedsConversion u := by
  rw [DataType.forall_inside_iff]
  cases hinner : t.inner? with
  | none =>
    rw [hydrated?_of_inner?_eq_none hinner]
    exact ⟨fun h => ⟨h, nofun⟩, fun h => h.1⟩
  | some t' =>
    obtain ⟨hplain, expr', depth', hlayer⟩ := hydrated?_inner hinner expr depth
    rw [hlayer, hydrated?_eq_none_iff expr' depth' t']
    constructor
    · rintro h
      refine ⟨hplain, ?_⟩
      rintro _ ⟨⟩
      exact h
    · rintro ⟨-, h⟩
      exact h t' rfl
termination_by sizeOf t
decreasing_by exact DataType.sizeOf_lt_of_inner? hinner

/-! ## What can be used as it arrives -/

/-- What JSON delivers for the layer itself is what Python takes. The keys of objects arrive as text. -/
def ArrivesAsTyped : DataType → Prop
  | .map key _ => keyText key = "str"
  | t => ¬NeedsConversion t

/-- A value of the type can be used as it arrives: nothing that is in view has to be converted. -/
def Usable (s : Service) (t : DataType) : Prop :=
  ∀ u, s.InView t u → ArrivesAsTyped u

theorem arrivesAsTyped_iff (t : DataType) :
    ArrivesAsTyped t ↔ ¬NeedsConversion t ∧ ∀ key value, t = .map key value → keyText key = "str" := by
  cases t with
  | map key value =>
    constructor
    · rintro h
      refine ⟨id, ?_⟩
      rintro _ _ ⟨⟩
      exact h
    · rintro ⟨-, h⟩
      exact h key value rfl
  | _ => exact ⟨fun h => ⟨h, nofun⟩, fun h => h.1⟩

/-- In a closed service, the values of a type can be used as they arrive if and only if there is no expression for
them, all maps inside have text for keys, and the values of all aliases inside can be used as they arrive. Only
unions of a type with null are looked into. -/
theorem usable_iff {s : Service} (hclosed : s.Closed) {t : DataType} (hdeclared : ∀ r ∈ t.references, s.Declares r)
    (expr : String) (depth : Nat) :
    Usable s t ↔
      hydrated? expr depth t = none ∧ (∀ key value, t.Inside (.map key value) → keyText key = "str") ∧
        ∀ r, t.Inside (.named r) → r.kind = .alias → ∃ type, s.Aliases r type ∧ Usable s type := by
  have hreferred : ∀ {r}, t.Inside (.named r) → s.Declares r := by
    intro r hr
    refine hdeclared r (hr.references ?_)
    rw [DataType.references]
    exact List.mem_singleton_self r
  rw [hydrated?_eq_none_iff]
  constructor
  · intro h
    have hinside : ∀ u, t.Inside u → ArrivesAsTyped u := fun u hu => h u (Service.inView_iff.mpr (.inl hu))
    refine ⟨fun u hu => ((arrivesAsTyped_iff u).mp (hinside u hu)).1, fun key value hmap => hinside _ hmap, ?_⟩
    intro r hr hkind
    obtain ⟨type, htype, -⟩ := hclosed.existsUnique_aliases (hreferred hr) hkind
    exact ⟨type, htype, fun u hu => h u (Service.inView_iff.mpr (.inr ⟨r, type, hr, hkind, htype, hu⟩))⟩
  · rintro ⟨hplain, hkeys, haliases⟩ u hu
    rcases Service.inView_iff.mp hu with hinside | ⟨r, type, hr, hkind, htype, hu⟩
    · refine (arrivesAsTyped_iff u).mpr ⟨hplain u hinside, ?_⟩
      rintro key value rfl
      exact hkeys key value hinside
    · -- The type that the alias is known to stand for is the only one.
      obtain ⟨type', htype', husable⟩ := haliases r hr hkind
      obtain rfl := (hclosed.existsUnique_aliases (hreferred hr) hkind).unique htype htype'
      exact husable u hu

/-! ## Users, their ages and numbers -/

/-- Users, a name for lists of them, and a name for lists of numbers. -/
def user : TypeRef := ⟨"User", "s", .record⟩

@[inherit_doc user]
def users : TypeRef := ⟨"Users", "s", .alias⟩

@[inherit_doc user]
def ids : TypeRef := ⟨"Ids", "s", .alias⟩

/-- A service that returns users, how many there are of each age, and their numbers. -/
def usersService : Service where
  language := .typeScript
  modulePath := "s"
  api := ⟨"S", [⟨"users", [], .named users, .rpc, none⟩, ⟨"ages", [], .map .integer .integer, .rpc, none⟩,
    ⟨"ids", [], .named ids, .rpc, none⟩], none⟩
  declarations := [⟨"User", "s", .record [⟨"name", false, .string⟩], none⟩,
    ⟨"Users", "s", .alias (.array (.named user)), none⟩, ⟨"Ids", "s", .alias (.array .integer), none⟩]

theorem usersService_closed : usersService.Closed where
  distinct := by decide
  declared := by
    have hreferences : usersService.references = [users, ids, user] := by
      simp [usersService, Service.references, Method.references, Declaration.references, DataType.references]
    rw [hreferences]
    unfold Service.Declares
    decide

/-- Numbers can be used as they arrive, in lists as well, and under another name. -/
theorem usable_ids : hydrated? "response" 0 (.named ids) = none ∧ Usable usersService (.named ids) := by
  have hnumbers : Usable usersService (.array .integer) := by
    -- Inside of a list of numbers there is nothing but the numbers.
    have hinside : ∀ u, (DataType.array .integer).Inside u → u = .array .integer ∨ u = .integer := by
      intro u hu
      rcases DataType.inside_iff.mp hu with rfl | ⟨t', hinner, hu⟩
      · exact .inl rfl
      · cases hinner
        exact .inr (hu.eq_of_inner? rfl)
    refine (usable_iff usersService_closed (by simp [DataType.references]) "response" 0).mpr ⟨?_, ?_, ?_⟩
    · simp [hydrated?]
    · intro key value hmap
      rcases hinside _ hmap with h | h <;> cases h
    · intro r hr
      rcases hinside _ hr with h | h <;> cases h
  have hnone : hydrated? "response" 0 (.named ids) = none := by simp [hydrated?, ids]
  refine ⟨hnone, (usable_iff usersService_closed ?_ "response" 0).mpr ⟨hnone, ?_, ?_⟩⟩
  · intro r hr
    rw [DataType.references, List.mem_singleton] at hr
    subst hr
    exact usersService_closed.declared ids (by simp [usersService, Service.references, Method.references,
      DataType.references])
  · intro key value hmap
    cases hmap.eq_of_inner? rfl
  · intro r hr _
    cases hr.eq_of_inner? rfl
    exact ⟨_, ⟨⟨"Ids", "s", .alias (.array .integer), none⟩, by simp [usersService], rfl, rfl⟩, hnumbers⟩

/-- Users arrive as mappings, and ages as text. There is no expression for either, because an alias stands between the
method and the records, and because keys are not looked at. -/
theorem not_usable_users :
    usersService.Closed ∧
      hydrated? "response" 0 (.named users) = none ∧ ¬Usable usersService (.named users) ∧
      hydrated? "response" 0 (.map .integer .integer) = none ∧ ¬Usable usersService (.map .integer .integer) := by
  refine ⟨usersService_closed, by simp [hydrated?, users], ?_, by simp [hydrated?], ?_⟩
  · intro h
    have halias : usersService.Aliases users (.array (.named user)) :=
      ⟨⟨"Users", "s", .alias (.array (.named user)), none⟩, by simp [usersService], rfl, rfl⟩
    have hview : usersService.InView (.named users) (.named user) :=
      .head (.inr ⟨users, rfl, rfl, halias⟩) (.head (.inl rfl) .refl)
    have hneeds : user.kind ≠ .alias := by decide
    exact h (.named user) hview hneeds
  · intro h
    have hkey : keyText .integer = "str" := h (.map .integer .integer) .refl
    exact absurd hkey (by decide)

end Python

end ServiceStubs
