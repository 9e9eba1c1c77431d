import Mathlib.Data.List.Forall2
import Mathlib.Data.List.Induction
import Mathlib.Data.List.Nodup
import ServiceStubs.Proofs.Resolution.Provenance

/-!
# What interfaces inherit

An interface has the members of its bases, and of their bases, as far as they are not declared again on the way,
and then its own ones. A member that can be reached in two ways is inherited twice.

* `ownMembers` are the members that a declaration itself has;
* `Shows` says which members an interface shows, and along which of its bases;
* `Tally` compares a list of fields with the members that are shown, and `interfaceFields_tally` is the case of
  an interface, by induction on the depth to which bases are followed;
* `InheritedFields` is what follows for the fields of an interface;
* `interfaceFields_inherited` says that it holds of all interfaces of a service;
* `buildService_inherits_twice` is an interface with a field that it has twice.
-/

namespace ServiceStubs.Resolution

open Source

/-! ## Members -/

/-- A member as it is declared: in a module, with the type parameters of its declaration. -/
structure DeclaredMember where
  owner : Module
  generics : List String
  name : String
  optional : Bool
  type : Option TypeExpr

/-- What a member of a type declares. -/
def typeMember? (owner : Module) (generics : List String) : TypeMember → Option DeclaredMember
  | .property (.named name) optional type => some ⟨owner, generics, name, optional, type⟩
  | _ => none

/-- What a member of a class declares of its objects. -/
def classMember? (owner : Module) (generics : List String) : ClassMember → Option DeclaredMember
  | .property p =>
    match p.name with
    | .named name => if p.isStatic || p.isPrivate then none else some ⟨owner, generics, name, p.optional, p.type⟩
    | _ => none
  | _ => none

/-- The members that a declaration has itself, in order. -/
def ownMembers (owner : Module) : Definition → List DeclaredMember
  | .interface i => i.members.filterMap (typeMember? owner i.typeParameters)
  | .alias a =>
    match a.type with
    | .members members => members.filterMap (typeMember? owner a.typeParameters)
    | _ => []
  | .classDefinition _ body => body.members.filterMap (classMember? owner body.typeParameters)
  | .enumeration _ => []

/-- The base at an index of an interface is this declaration. -/
def BaseAt (library : Library) (owner : Module) (i : InterfaceSyntax) (index : Nat) (owner' : Module)
    (definition : Definition) : Prop :=
  ∃ base location found, i.bases[index]? = some (some base) ∧ locate library owner base = .ok (some location) ∧
    location.module.definition? location.name = some found ∧ owner' = location.module ∧
    definition = found.definition

/-- An index has one base, and this one stands for one declaration. -/
theorem BaseAt.unique {library : Library} {owner owner' owner'' : Module} {i : InterfaceSyntax} {index : Nat}
    {definition definition' : Definition} (h : BaseAt library owner i index owner' definition)
    (h' : BaseAt library owner i index owner'' definition') : owner' = owner'' ∧ definition = definition' := by
  obtain ⟨base, location, found, hbase, hlocate, hfound, rfl, rfl⟩ := h
  obtain ⟨base', location', found', hbase', hlocate', hfound', rfl, rfl⟩ := h'
  rw [hbase] at hbase'
  cases hbase'
  rw [hlocate] at hlocate'
  cases hlocate'
  rw [hfound] at hfound'
  cases hfound'
  exact ⟨rfl, rfl⟩

/-- The declaration shows the member, which is its own, or that of a base and not declared again. The route
has the indices of the bases on the way. -/
inductive Shows (library : Library) : Module → Definition → List Nat → DeclaredMember → Prop where
  | own {owner : Module} {definition : Definition} {d : DeclaredMember} (h : d ∈ ownMembers owner definition) :
      Shows library owner definition [] d
  | inherited {owner owner' : Module} {i : InterfaceSyntax} {index : Nat} {definition : Definition}
      {route : List Nat} {d : DeclaredMember} (hbase : BaseAt library owner i index owner' definition)
      (h : Shows library owner' definition route d) (hkept : ∀ o ∈ ownMembers owner (.interface i), o.name ≠ d.name) :
      Shows library owner (.interface i) (index :: route) d

/-- The second declaration is the first one, or one of its bases, or one of their bases. -/
inductive Ancestor (library : Library) : Module → Definition → Module → Definition → Prop where
  | self (owner : Module) (definition : Definition) : Ancestor library owner definition owner definition
  | base {owner owner' owner'' : Module} {i : InterfaceSyntax} {index : Nat} {definition definition' : Definition}
      (hbase : BaseAt library owner i index owner' definition)
      (h : Ancestor library owner' definition owner'' definition') :
      Ancestor library owner (.interface i) owner'' definition'

/-- Neither the declaration nor one that it inherits from declares a name twice. -/
def OnceDeclared (library : Library) (owner : Module) (definition : Definition) : Prop :=
  ∀ owner' definition', Ancestor library owner definition owner' definition' →
    ((ownMembers owner' definition').map (·.name)).Nodup

/-- The field is the one that the member declares: it has its name, and a type that the resolver gives to
the type of the member. -/
structure Carries (resolve : NameResolver) (f : Field) (d : DeclaredMember) : Prop where
  name : f.name = d.name
  optional : f.optional = d.optional
  type : Yields (meaning? resolve d.owner d.generics d.type) f.type

variable {library : Library} {resolve : NameResolver}

/-! ## Own fields -/

theorem fieldsOf_carries {m : Module} {generics : List String} {members : List TypeMember} {fields : List Field}
    (h : Yields (fieldsOf resolve m generics members) fields) :
    List.Forall₂ (Carries resolve) fields (members.filterMap (typeMember? m generics)) := by
  induction members generalizing fields with
  | nil =>
    rw [fieldsOf] at h
    obtain rfl := yields_pure.mp h
    exact .nil
  | cons member rest ih =>
    -- Members without plain names cannot be among them, since the resolver has not failed.
    match member with
    | .property (.named name) optional type =>
      rw [fieldsOf] at h
      obtain ⟨meant, hmeant, h⟩ := h.bind
      obtain ⟨others, hothers, h⟩ := h.bind
      obtain rfl := yields_pure.mp h
      exact .cons ⟨rfl, rfl, hmeant⟩ (ih hothers)
    | .property .number _ _ | .property .hidden _ _ | .property .computed _ _ =>
      rw [fieldsOf] at h
      · exact absurd h not_yields_throw
      all_goals simp
    | .index _ _ | .other =>
      rw [fieldsOf] at h
      exact ih h

theorem classFields_carries {m : Module} {generics : List String} {members : List ClassMember}
    {fields : List Field} (h : Yields (classFields resolve m generics members) fields) :
    List.Forall₂ (Carries resolve) fields (members.filterMap (classMember? m generics)) := by
  induction members generalizing fields with
  | nil =>
    rw [classFields] at h
    obtain rfl := yields_pure.mp h
    exact .nil
  | cons member rest ih =>
    cases member with
    | method | other =>
      rw [classFields] at h
      exact ih h
    | property p =>
      rw [classFields] at h
      split at h
      · -- What is static or private is skipped, and not among the members either.
        rename_i hhidden
        have hnone : classMember? m generics (.property p) = none := by
          unfold classMember?
          dsimp only
          split
          · rw [if_pos hhidden]
          · rfl
        rw [List.filterMap_cons_none hnone]
        exact ih h
      · rename_i hshown
        split at h
        · rename_i name hname
          have hsome : classMember? m generics (.property p) = some ⟨m, generics, name, p.optional, p.type⟩ := by
            unfold classMember?
            dsimp only
            rw [hname]
            exact if_neg hshown
          obtain ⟨meant, hmeant, h⟩ := h.bind
          obtain ⟨others, hothers, h⟩ := h.bind
          obtain rfl := yields_pure.mp h
          rw [List.filterMap_cons_some hsome]
          exact .cons ⟨rfl, rfl, hmeant⟩ (ih hothers)
        · exact absurd h not_yields_throw

/-- The fields of an alias of a literal type; any other alias has none. -/
theorem aliasFields_carries {m : Module} {a : AliasSyntax} {fields : List Field}
    (h : Yields (match a.type with
      | .members members => fieldsOf resolve m a.typeParameters members
      | _ => pure []) fields) :
    List.Forall₂ (Carries resolve) fields (ownMembers m (.alias a)) := by
  dsimp only [ownMembers]
  cases htype : a.type
  case members members =>
    simp only [htype] at h
    exact fieldsOf_carries h
  all_goals
    simp only [htype] at h
    obtain rfl := yields_pure.mp h
    exact .nil

/-! ## Fields and the members that are shown -/

/-- The route to a shown member, and its name. -/
def routedName (shown : List Nat × DeclaredMember) : List Nat × String :=
  (shown.1, shown.2.name)

/-- The fields are those of the shown members, which are the ones of a declaration. -/
structure Tally (library : Library) (resolve : NameResolver) (owner : Module) (definition : Definition)
    (fields : List Field) (shown : List (List Nat × DeclaredMember)) : Prop where
  carried : List.Forall₂ (fun f p => Carries resolve f p.2) fields shown
  mem : ∀ route d, (route, d) ∈ shown ↔ Shows library owner definition route d
  apart : OnceDeclared library owner definition → (shown.map routedName).Nodup

/-- The fields are those of the shown members, which are the ones of a base. -/
structure BaseTally (library : Library) (resolve : NameResolver) (owner : Module) (i : InterfaceSyntax)
    (index : Nat) (fields : List Field) (shown : List (List Nat × DeclaredMember)) : Prop where
  carried : List.Forall₂ (fun f p => Carries resolve f p.2) fields shown
  mem : ∀ route d, (route, d) ∈ shown ↔
    ∃ owner' definition, BaseAt library owner i index owner' definition ∧ Shows library owner' definition route d
  apart : OnceDeclared library owner (.interface i) → (shown.map routedName).Nodup

section

variable {owner : Module} {definition : Definition} {fields : List Field}

theorem nodup_ownNames (h : OnceDeclared library owner definition) :
    (((ownMembers owner definition).map fun d => (([] : List Nat), d)).map routedName).Nodup := by
  have hnames : (((ownMembers owner definition).map fun d => (([] : List Nat), d)).map routedName) =
      ((ownMembers owner definition).map (·.name)).map (Prod.mk []) := by
    simp [routedName, Function.comp_def]
  rw [hnames]
  exact (h owner definition (.self owner definition)).map fun _ _ heq => (Prod.mk.inj heq).2

/-- A declaration without bases has its own fields. -/
theorem tally_own (hbases : ∀ i, definition ≠ .interface i)
    (h : List.Forall₂ (Carries resolve) fields (ownMembers owner definition)) :
    Tally library resolve owner definition fields ((ownMembers owner definition).map fun d => ([], d)) := by
  refine ⟨List.forall₂_map_right_iff.mpr h, fun route d => ?_, nodup_ownNames⟩
  rw [List.mem_map]
  constructor
  · rintro ⟨d, hd, heq⟩
    cases heq
    exact .own hd
  · intro hshows
    cases hshows with
    | own hd => exact ⟨d, hd, rfl⟩
    | inherited => exact absurd rfl (hbases _)

variable {i : InterfaceSyntax} {index : Nat} {base : String} {location : Location}

/-- What a base shows is what its declaration shows. -/
theorem Tally.toBase {found : Documented} {shown : List (List Nat × DeclaredMember)}
    (hbase : i.bases[index]? = some (some base)) (hlocate : locate library owner base = .ok (some location))
    (hfound : location.module.definition? location.name = some found)
    (h : Tally library resolve location.module found.definition fields shown) :
    BaseTally library resolve owner i index fields shown := by
  have hbaseAt : BaseAt library owner i index location.module found.definition :=
    ⟨base, location, found, hbase, hlocate, hfound, rfl, rfl⟩
  refine ⟨h.carried, fun route d => ?_, fun honce => h.apart fun owner' definition' hancestor => ?_⟩
  · rw [h.mem]
    constructor
    · exact fun hshows => ⟨_, _, hbaseAt, hshows⟩
    · rintro ⟨owner', definition, hbaseAt', hshows⟩
      obtain ⟨rfl, rfl⟩ := hbaseAt.unique hbaseAt'
      exact hshows
  · exact honce owner' definition' (.base hbaseAt hancestor)

/-- A base that stands for nothing shows nothing. -/
theorem baseTally_nil (h : ∀ owner' definition, ¬BaseAt library owner i index owner' definition) :
    BaseTally library resolve owner i index [] [] := by
  refine ⟨.nil, fun route d => ⟨fun hmem => ?_, fun ⟨_, _, hbase, _⟩ => absurd hbase (h _ _)⟩, fun _ => .nil⟩
  cases hmem

/-- The bases that are interfaces show what is tallied for them. -/
theorem baseFields_tally {lenient : Bool} {inherit? : Option (Module → InterfaceSyntax → Resolve (List Field))}
    (hinherit : ∀ inherit, inherit? = some inherit → ∀ owner i fields, Yields (inherit owner i) fields →
      ∃ shown, Tally library resolve owner (.interface i) fields shown)
    {base? : Option String} (hbase : i.bases[index]? = some base?)
    (h : Yields (baseFields ⟨library, lenient⟩ resolve inherit? owner base?) fields) :
    ∃ shown, BaseTally library resolve owner i index fields shown := by
  unfold baseFields at h
  rcases base? with _ | base
  · obtain rfl := yields_pure.mp h
    refine ⟨[], baseTally_nil ?_⟩
    rintro owner' definition ⟨base, location, found, hbase', -⟩
    rw [hbase] at hbase'
    cases hbase'
  · rcases inherit? with _ | inherit
    · exact absurd h not_yields_throw
    · obtain ⟨location?, hlocate, h⟩ := h.bind
      rw [yields_ofSearch] at hlocate
      rcases location? with _ | location
      · exact absurd h not_yields_throw
      · dsimp only at h hlocate
        rcases hfound : location.module.definition? location.name with _ | found
        · rw [hfound] at h
          obtain rfl := yields_pure.mp h
          refine ⟨[], baseTally_nil ?_⟩
          rintro owner' definition ⟨base', location', found, hbase', hlocate', hfound', -, -⟩
          rw [hbase] at hbase'
          cases hbase'
          rw [hlocate] at hlocate'
          cases hlocate'
          rw [hfound] at hfound'
          cases hfound'
        · rw [hfound, Option.map_some] at h
          -- Interfaces are followed by hypothesis; everything else shows its own members only.
          have htally : ∃ shown, Tally library resolve location.module found.definition fields shown := by
            match hdefinition : found.definition with
            | .interface j =>
              rw [hdefinition] at h
              exact hinherit inherit rfl _ j _ h
            | .alias a =>
              rw [hdefinition] at h
              exact ⟨_, tally_own (by simp) (aliasFields_carries h)⟩
            | .classDefinition name body =>
              rw [hdefinition] at h
              exact ⟨_, tally_own (by simp) (classFields_carries h)⟩
            | .enumeration e =>
              rw [hdefinition] at h
              obtain rfl := yields_pure.mp h
              exact ⟨_, tally_own (by simp) .nil⟩
          obtain ⟨shown, htally⟩ := htally
          exact ⟨shown, htally.toBase hbase hlocate hfound⟩

end

/-! ## Fields of interfaces -/

/-- Fields have the names of the members that they carry. -/
theorem names_eq {α : Type} {member : α → DeclaredMember} {fields : List Field} {members : List α}
    (h : List.Forall₂ (fun f a => Carries resolve f (member a)) fields members) :
    fields.map (·.name) = members.map fun a => (member a).name := by
  induction h with
  | nil => rfl
  | cons hcarries _ ih => rw [List.map_cons, List.map_cons, hcarries.name, ih]

/-- Own fields leave a field where the own members leave its member. -/
theorem all_name_ne {own : List Field} {members : List DeclaredMember} {f : Field} {d : DeclaredMember}
    (hown : List.Forall₂ (Carries resolve) own members) (h : Carries resolve f d) :
    (own.all fun o => o.name ≠ f.name) = members.all fun o => o.name ≠ d.name := by
  have hnames : own.map (·.name) = members.map (·.name) := names_eq hown
  calc (own.all fun o => o.name ≠ f.name)
      = (own.map (·.name)).all fun name => name ≠ f.name := by rw [List.all_map]; rfl
    _ = (members.map (·.name)).all fun name => name ≠ d.name := by rw [hnames, h.name]
    _ = members.all fun o => o.name ≠ d.name := by rw [List.all_map]; rfl

section

variable {owner : Module} {i : InterfaceSyntax}

/-- The fields of all bases show what the bases show, with the index of the base in front of each route. -/
theorem bases_tally {inherited : List (List Field)}
    (h : ∀ index fields, inherited[index]? = some fields →
      ∃ shown, BaseTally library resolve owner i index fields shown) :
    ∃ shown, List.Forall₂ (fun f p => Carries resolve f p.2) inherited.flatten shown ∧
      (∀ route d, (route, d) ∈ shown ↔ ∃ index route' owner' definition, index < inherited.length ∧
        route = index :: route' ∧ BaseAt library owner i index owner' definition ∧
        Shows library owner' definition route' d) ∧
      (OnceDeclared library owner (.interface i) → (shown.map routedName).Nodup) := by
  induction inherited using List.reverseRecOn with
  | nil => exact ⟨[], .nil, by simp, fun _ => .nil⟩
  | append_singleton front last ih =>
    have hfront : ∀ index fields, front[index]? = some fields →
        ∃ shown, BaseTally library resolve owner i index fields shown := by
      intro index fields hfields
      obtain ⟨hlt, -⟩ := List.getElem?_eq_some_iff.mp hfields
      exact h index fields (by rwa [List.getElem?_append_left hlt])
    obtain ⟨shown, hcarried, hmem, hapart⟩ := ih hfront
    obtain ⟨added, hlast⟩ := h front.length last (by simp)
    refine ⟨shown ++ added.map fun p => (front.length :: p.1, p.2), ?_, fun route d => ?_, fun honce => ?_⟩
    · rw [List.flatten_append, List.flatten_singleton]
      exact List.rel_append hcarried (List.forall₂_map_right_iff.mpr hlast.carried)
    · rw [List.mem_append, hmem, List.mem_map, List.length_append, List.length_singleton]
      constructor
      · rintro (⟨index, route', owner', definition, hlt, hrest⟩ | ⟨⟨route', d⟩, hadded, heq⟩)
        · exact ⟨index, route', owner', definition, by omega, hrest⟩
        · cases heq
          obtain ⟨owner', definition, hbase, hshows⟩ := (hlast.mem route' d).mp hadded
          exact ⟨front.length, route', owner', definition, by omega, rfl, hbase, hshows⟩
      · rintro ⟨index, route', owner', definition, hlt, rfl, hbase, hshows⟩
        rcases Nat.lt_succ_iff_lt_or_eq.mp hlt with hlt | rfl
        · exact .inl ⟨index, route', owner', definition, hlt, rfl, hbase, hshows⟩
        · exact .inr ⟨(route', d), (hlast.mem route' d).mpr ⟨owner', definition, hbase, hshows⟩, rfl⟩
    · -- The routes through the last base begin with its index, and no others do.
      rw [List.map_append, List.map_map]
      refine (hapart honce).append ?_ ?_
      · have hkeys : added.map (routedName ∘ fun p => (front.length :: p.1, p.2)) =
            (added.map routedName).map fun p => (front.length :: p.1, p.2) := by
          simp [routedName, Function.comp_def]
        rw [hkeys]
        refine (hlast.apart honce).map fun p q heq => ?_
        obtain ⟨hroute, hname⟩ := Prod.mk.inj heq
        exact Prod.ext (List.cons.inj hroute).2 hname
      · intro key hkey hkey'
        obtain ⟨⟨route, d⟩, hshown, rfl⟩ := List.mem_map.mp hkey
        obtain ⟨p, -, heq⟩ := List.mem_map.mp hkey'
        obtain ⟨index, route', owner', definition, hlt, rfl, -⟩ := (hmem route d).mp hshown
        have hindex : front.length = index := (List.cons.inj (Prod.mk.inj heq).1).1
        omega

/-- Own fields, after the inherited ones that they leave. -/
theorem overridden_tally {inherited : List (List Field)} {own : List Field}
    (hown : List.Forall₂ (Carries resolve) own (ownMembers owner (.interface i)))
    (hlength : inherited.length = i.bases.length)
    (h : ∀ index fields, inherited[index]? = some fields →
      ∃ shown, BaseTally library resolve owner i index fields shown) :
    ∃ shown, Tally library resolve owner (.interface i) (overridden inherited.flatten own) shown := by
  obtain ⟨shown, hcarried, hmem, hapart⟩ := bases_tally h
  let kept (p : List Nat × DeclaredMember) : Bool :=
    (ownMembers owner (.interface i)).all fun o => o.name ≠ p.2.name
  have hown' : List.Forall₂ (fun f p => Carries resolve f p.2) own
      ((ownMembers owner (.interface i)).map fun d => (([] : List Nat), d)) :=
    List.forall₂_map_right_iff.mpr hown
  refine ⟨shown.filter kept ++ (ownMembers owner (.interface i)).map fun d => ([], d), ?_, fun route d => ?_,
    fun honce => ?_⟩
  · exact List.rel_append (List.rel_filter (fun _ _ h => Bool.eq_iff_iff.mp (all_name_ne hown h)) hcarried) hown'
  · rw [List.mem_append, List.mem_filter, hmem, List.mem_map]
    have hkeptIff : kept (route, d) = true ↔ ∀ o ∈ ownMembers owner (.interface i), o.name ≠ d.name := by
      simp [kept]
    rw [hkeptIff]
    constructor
    · rintro (⟨⟨index, route', owner', definition, -, rfl, hbase, hshows⟩, hleft⟩ | ⟨d, hd, heq⟩)
      · exact .inherited hbase hshows hleft
      · cases heq
        exact .own hd
    · intro hshows
      cases hshows with
      | own hd => exact .inr ⟨d, hd, rfl⟩
      | inherited hbase hshows hleft =>
        have hbases := hbase
        obtain ⟨base, -, -, hindex, -⟩ := hbases
        obtain ⟨hlt, -⟩ := List.getElem?_eq_some_iff.mp hindex
        exact .inl ⟨⟨_, _, _, _, by omega, rfl, hbase, hshows⟩, hleft⟩
  · rw [List.map_append]
    refine ((hapart honce).sublist (List.filter_sublist.map _)).append (nodup_ownNames honce) ?_
    -- An inherited member has a route, an own one has none.
    intro key hkey hkey'
    obtain ⟨⟨route, d⟩, hshown, rfl⟩ := List.mem_map.mp hkey
    obtain ⟨⟨route', d'⟩, hown, heq⟩ := List.mem_map.mp hkey'
    obtain ⟨_, -, hnil⟩ := List.mem_map.mp hown
    cases hnil
    obtain ⟨index, route', owner', definition, -, rfl, -⟩ := (hmem route d).mp (List.mem_filter.mp hshown).1
    cases (Prod.mk.inj heq).1

/-- What an interface shows, bases being followed to any depth. -/
theorem interfaceFields_tally {lenient : Bool} (depth : Nat) {fields : List Field}
    (h : Yields (interfaceFields ⟨library, lenient⟩ resolve depth owner i) fields) :
    ∃ shown, Tally library resolve owner (.interface i) fields shown := by
  -- Every base is followed to a smaller depth.
  have hstep : ∀ {inherit? : Option (Module → InterfaceSyntax → Resolve (List Field))} {owner : Module}
      {i : InterfaceSyntax} {fields : List Field},
      (∀ inherit, inherit? = some inherit → ∀ owner i fields, Yields (inherit owner i) fields →
        ∃ shown, Tally library resolve owner (.interface i) fields shown) →
      Yields (do
        let inherited ← i.bases.mapM (baseFields ⟨library, lenient⟩ resolve inherit? owner)
        let own ← fieldsOf resolve owner i.typeParameters i.members
        return overridden inherited.flatten own) fields →
      ∃ shown, Tally library resolve owner (.interface i) fields shown := by
    intro inherit? owner i fields hinherit h
    obtain ⟨inherited, hinherited, h⟩ := h.bind
    obtain ⟨own, hown, h⟩ := h.bind
    obtain rfl := yields_pure.mp h
    have hbases := hinherited.mapM
    refine overridden_tally (fieldsOf_carries hown) hbases.length_eq.symm fun index fields hfields => ?_
    obtain ⟨hlt, rfl⟩ := List.getElem?_eq_some_iff.mp hfields
    have hlt' : index < i.bases.length := hbases.length_eq ▸ hlt
    exact baseFields_tally hinherit (List.getElem?_eq_getElem hlt') (hbases.get hlt' hlt)
  induction depth generalizing owner i fields with
  | zero =>
    unfold interfaceFields at h
    exact hstep (fun inherit hnone => by cases hnone) h
  | succ depth ih =>
    unfold interfaceFields at h
    refine hstep (fun inherit hsome owner i fields hinherit => ?_) h
    cases hsome
    exact ih hinherit

/-! ## Inherited fields -/

/-- What is known of the fields of an interface. -/
structure InheritedFields (library : Library) (resolve : NameResolver) (owner : Module) (i : InterfaceSyntax)
    (fields : List Field) : Prop where
  /-- Each field is a member that is shown: on its way down from its declaration it is not declared again. -/
  sound : ∀ f ∈ fields, ∃ route d, Shows library owner (.interface i) route d ∧ Carries resolve f d
  /-- Each member that is shown is a field. -/
  complete : ∀ route d, Shows library owner (.interface i) route d → ∃ f ∈ fields, Carries resolve f d
  /-- The own members come last, in order, and have names that no inherited one has. -/
  ownLast : ∃ inherited own, fields = inherited ++ own ∧
    List.Forall₂ (Carries resolve) own (ownMembers owner (.interface i)) ∧
    ∀ f ∈ inherited, ∀ o ∈ own, f.name ≠ o.name
  /-- No name has two fields if and only if no name is shown along two routes. -/
  distinct_iff : OnceDeclared library owner (.interface i) →
    ((fields.map (·.name)).Nodup ↔ ∀ route route' d d', Shows library owner (.interface i) route d →
      Shows library owner (.interface i) route' d' → d.name = d'.name → route = route')

theorem Tally.distinct_iff {definition : Definition} {fields : List Field}
    {shown : List (List Nat × DeclaredMember)} (h : Tally library resolve owner definition fields shown)
    (honce : OnceDeclared library owner definition) :
    (fields.map (·.name)).Nodup ↔ ∀ route route' d d', Shows library owner definition route d →
      Shows library owner definition route' d' → d.name = d'.name → route = route' := by
  rw [names_eq h.carried]
  constructor
  · intro hnodup route route' d d' hshows hshows' hname
    have hpair := List.inj_on_of_nodup_map hnodup ((h.mem route d).mpr hshows) ((h.mem route' d').mpr hshows') hname
    exact (Prod.mk.inj hpair).1
  · intro hroutes
    have hkeys := List.pairwise_map.mp (h.apart honce)
    refine List.pairwise_map.mpr (hkeys.imp_of_mem fun {p q} hp hq hne hname => hne ?_)
    exact Prod.ext (hroutes p.1 q.1 p.2 q.2 ((h.mem _ _).mp hp) ((h.mem _ _).mp hq) hname) hname

/-- What the resolver gives for an interface are its inherited fields and its own ones. -/
theorem inheritedFields_of_yields {lenient : Bool} {depth : Nat} {fields : List Field}
    (h : Yields (interfaceFields ⟨library, lenient⟩ resolve depth owner i) fields) :
    InheritedFields library resolve owner i fields := by
  obtain ⟨shown, htally⟩ := interfaceFields_tally depth h
  have hlength := htally.carried.length_eq
  refine ⟨fun f hf => ?_, fun route d hshows => ?_, ?_, htally.distinct_iff⟩
  · obtain ⟨n, hn, rfl⟩ := List.getElem_of_mem hf
    exact ⟨_, _, (htally.mem _ _).mp (List.getElem_mem (hlength ▸ hn)), htally.carried.get hn (hlength ▸ hn)⟩
  · obtain ⟨n, hn, hshown⟩ := List.getElem_of_mem ((htally.mem route d).mpr hshows)
    have hn' : n < fields.length := hlength ▸ hn
    have hcarries := htally.carried.get hn' hn
    rw [List.get_eq_getElem, List.get_eq_getElem, hshown] at hcarries
    exact ⟨_, List.getElem_mem hn', hcarries⟩
  · unfold interfaceFields at h
    obtain ⟨inherited, -, h⟩ := h.bind
    obtain ⟨own, hown, h⟩ := h.bind
    obtain rfl := yields_pure.mp h
    refine ⟨_, own, rfl, fieldsOf_carries hown, fun f hf o ho heq => ?_⟩
    have hall := (List.mem_filter.mp hf).2
    rw [List.all_eq_true] at hall
    exact absurd heq.symm (of_decide_eq_true (hall o ho))

/-- Where no interface has two bases, no name is shown along two routes. -/
theorem Shows.route_eq {definition : Definition} {route route' : List Nat} {d d' : DeclaredMember}
    (h : Shows library owner definition route d) (h' : Shows library owner definition route' d')
    (hchain : ∀ owner' i, Ancestor library owner definition owner' (.interface i) → i.bases.length ≤ 1)
    (hname : d.name = d'.name) : route = route' := by
  induction h generalizing route' d' with
  | own hd =>
    cases h' with
    | own => rfl
    | inherited hbase h' hkept => exact absurd hname (hkept _ hd)
  | @inherited owner owner' i index definition route d hbase h hkept ih =>
    cases h' with
    | own hd' => exact absurd hname.symm (hkept _ hd')
    | @inherited _ _ _ index' _ route' _ hbase' h' hkept' =>
      -- There is no base but the first one, so that both routes take the same turn.
      have hfirst : ∀ {index owner' definition}, BaseAt library owner i index owner' definition → index = 0 := by
        rintro index owner' definition ⟨base, -, -, hindex, -⟩
        obtain ⟨hlt, -⟩ := List.getElem?_eq_some_iff.mp hindex
        have hlength := hchain owner i (.self owner _)
        omega
      obtain rfl := hfirst hbase
      obtain rfl := hfirst hbase'
      obtain ⟨rfl, rfl⟩ := hbase.unique hbase'
      rw [ih h' (fun owner'' i' hancestor => hchain owner'' i' (.base hbase hancestor)) hname]

end

/-- What the resolver gives for an interface are the members that it shows, inherited ones first, each of them
once if and only if it shows them along one route each; this holds in particular where no interface has two
bases. The record that a service declares for an interface is what the resolver gives for it. -/
theorem buildService_inheritedFields {library : Library} {exposure : String → ClassExposure} {r : BuildRequest}
    {s : Service} (h : buildService library exposure r = .ok s) :
    ∃ m, Module.read r.path r.text = .ok m ∧
      (∀ lenient resolve depth owner i fields,
        Yields (interfaceFields ⟨library.insert m, lenient⟩ resolve depth owner i) fields →
        InheritedFields (library.insert m) resolve owner i fields ∧
          (OnceDeclared (library.insert m) owner (.interface i) →
            (∀ owner' i', Ancestor (library.insert m) owner (.interface i) owner' (.interface i') →
              i'.bases.length ≤ 1) →
            (fields.map (·.name)).Nodup)) ∧
      ∀ d ∈ s.declarations, ∃ owner found, owner.definition? d.name = some found ∧
        owner.modulePath = d.modulePath ∧ ∀ i, found.definition = .interface i → ∃ lenient budget fields,
          d.body = .record fields ∧
          Yields (interfaceFields ⟨library.insert m, lenient⟩ (resolveNamed ⟨library.insert m, lenient⟩ budget)
            longestChain owner i) fields := by
  obtain ⟨m, hread, hdeclared⟩ := buildService_sourced h
  refine ⟨m, hread, fun lenient resolve depth owner i fields hyields => ?_, fun d hd => ?_⟩
  · have hfields := inheritedFields_of_yields hyields
    refine ⟨hfields, fun honce hchain => (hfields.distinct_iff honce).mpr fun route route' d d' hshows hshows' hname =>
      hshows.route_eq hshows' hchain hname⟩
  · -- The declaration comes from a run of the resolver, of which the first half speaks.
    obtain ⟨owner, found, lenient, budget, hfound, hpath, hyields⟩ := hdeclared d hd
    refine ⟨owner, found, hfound, hpath, fun i hi => ?_⟩
    rw [hi] at hyields
    obtain ⟨fields, hfields, hbody⟩ := hyields.bind
    exact ⟨lenient, budget, fields, (yields_pure.mp hbody).symm, hfields⟩

/-! ## Members that are inherited twice -/

/-- Clients can call all methods. -/
def allMethods : String → ClassExposure :=
  fun _ => ⟨.rpc, []⟩

/-- A service with a record that declares a member of its base again. -/
def chainRequest : BuildRequest :=
  { path := "s.ts"
    text := "interface A { id: string; a: string }\ninterface B extends A { id: number }\n" ++
      "export class S { f(b: B): void {} }"
    className := none }

/-- A service with a record that has two bases, which have one in common. -/
def diamondRequest : BuildRequest :=
  { path := "s.ts"
    text := "interface A { id: string }\ninterface B extends A { b: string }\n" ++
      "interface C extends A { c: string }\ninterface D extends B, C { d: string }\n" ++
      "export class S { f(d: D): void {} }"
    className := none }

/-- The names of the fields of a record. -/
def recordNames : DeclBody → List String
  | .record fields => fields.map (·.name)
  | _ => []

/-- The record of the first service is what its interface shows. -/
theorem buildService_inheritedFields_chain :
    ∃ s m, buildService (Library.ofFiles []) allMethods chainRequest = .ok s ∧
      Module.read chainRequest.path chainRequest.text = .ok m ∧
      s.declarations.map (fun d => (d.name, recordNames d.body)) = [("B", ["a", "id"])] ∧
      ∀ d ∈ s.declarations, ∃ owner found, owner.definition? d.name = some found ∧
        ∀ i, found.definition = .interface i → ∃ resolve fields, d.body = .record fields ∧
          InheritedFields ((Library.ofFiles []).insert m) resolve owner i fields := by
  have hbuilt : ∃ s, buildService (Library.ofFiles []) allMethods chainRequest = .ok s ∧
      s.declarations.map (fun d => (d.name, recordNames d.body)) = [("B", ["a", "id"])] :=
    toOption_map_eq_some_iff.mp (by decide +kernel)
  obtain ⟨s, hs, hrecords⟩ := hbuilt
  obtain ⟨m, hread, hfields, hdeclared⟩ := buildService_inheritedFields hs
  refine ⟨s, m, hs, hread, hrecords, fun d hd => ?_⟩
  obtain ⟨owner, found, hfound, -, hrecord⟩ := hdeclared d hd
  refine ⟨owner, found, hfound, fun i hi => ?_⟩
  obtain ⟨lenient, budget, fields, hbody, hyields⟩ := hrecord i hi
  exact ⟨_, fields, hbody, (hfields _ _ _ _ _ _ hyields).1⟩

/-- Each declaration of the second service declares its members once, and yet a record has a field twice. -/
theorem buildService_inherits_twice :
    (Module.read diamondRequest.path diamondRequest.text).toOption.map
        (fun m => ["A", "B", "C", "D"].map fun name => (m.definition? name).map fun found =>
          (ownMembers m found.definition).map (·.name)) =
      some [some ["id"], some ["b"], some ["c"], some ["d"]] ∧
    ∃ s, buildService (Library.ofFiles []) allMethods diamondRequest = .ok s ∧
      s.declarations.map (fun d => (d.name, recordNames d.body)) = [("D", ["id", "b", "id", "c", "d"])] :=
  ⟨by decide +kernel, toOption_map_eq_some_iff.mp (by decide +kernel)⟩

end ServiceStubs.Resolution
