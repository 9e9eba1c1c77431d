import ServiceStubs.Proofs.Resolution.Alike

/-!
# Types do not depend on methods

Types are found and resolved by the names, imports and fields in modules. The methods of classes take no
part in it: everything that resolves types gives the same in modules from which all methods are erased.

* `Module.withoutMethods` erases the methods from the classes of a module;
* `locate_withoutMethods` says that names are found in the same places;
* `resolveNamed_withoutMethods` says that they mean the same;
* `signature_withoutMethods` concludes that a signature depends on its own method only.
-/

namespace ServiceStubs

namespace Source

/-! ## Erasing methods -/

/-- The member is a function of its class. -/
def ClassMember.isMethod : ClassMember → Bool
  | .method _ => true
  | _ => false

/-- The class without its functions. -/
def ClassSyntax.withoutMethods (c : ClassSyntax) : ClassSyntax :=
  { c with members := c.members.filter fun member => !member.isMethod }

/-- The declaration, without functions if it is a class. -/
def Definition.withoutMethods : Definition → Definition
  | .classDefinition name c => .classDefinition name c.withoutMethods
  | definition => definition

/-- The default declaration, without functions if it is a class. -/
def DefaultDefinition.withoutMethods : DefaultDefinition → DefaultDefinition
  | .classDefinition name c => .classDefinition name c.withoutMethods
  | definition => definition

/-- The statement, without functions if it declares a class. -/
def Item.withoutMethods : Item → Item
  | .definition found docs => .definition found.withoutMethods docs
  | .exported found docs innerDocs => .exported found.withoutMethods docs innerDocs
  | .exportedDefault found docs innerDocs => .exportedDefault found.withoutMethods docs innerDocs
  | item => item

/-- The module without the functions of its classes. -/
def Module.withoutMethods (m : Module) : Module :=
  { m with items := m.items.map Item.withoutMethods }

/-- The declaration, without functions if it is a class, with its documentation. -/
def Documented.withoutMethods (found : Documented) : Documented :=
  { found with definition := found.definition.withoutMethods }

/-- The library of modules without the functions of their classes. -/
def Library.withoutMethods (library : Library) : Library :=
  { library with find? := fun path => (library.find? path).map (Except.map Module.withoutMethods) }

@[simp] theorem Module.path_withoutMethods (m : Module) : m.withoutMethods.path = m.path := rfl

@[simp] theorem Module.language_withoutMethods (m : Module) : m.withoutMethods.language = m.language := rfl

@[simp] theorem Module.modulePath_withoutMethods (m : Module) :
    m.withoutMethods.modulePath = m.modulePath := rfl

@[simp] theorem Definition.name_withoutMethods (d : Definition) : d.withoutMethods.name = d.name := by
  cases d <;> rfl

/-! ## What modules declare, import and export -/

theorem Item.definition?_withoutMethods (name : String) (item : Item) :
    item.withoutMethods.definition? name = (item.definition? name).map Documented.withoutMethods := by
  -- Names stay what they are, so that the tests for the name come out the same.
  cases item with
  | definition found docs =>
    simp only [Item.withoutMethods, Item.definition?, Definition.name_withoutMethods]
    split
    · rfl
    · rfl
  | exported found docs innerDocs =>
    simp only [Item.withoutMethods, Item.definition?, Definition.name_withoutMethods]
    split
    · rfl
    · rfl
  | exportedDefault found docs innerDocs =>
    cases found with
    | classDefinition className body =>
      simp only [Item.withoutMethods, DefaultDefinition.withoutMethods, Item.definition?]
      split
      · rfl
      · rfl
    | interface body =>
      simp only [Item.withoutMethods, DefaultDefinition.withoutMethods, Item.definition?]
      split
      · rfl
      · rfl
  | _ => rfl

theorem Module.definition?_withoutMethods (m : Module) (name : String) :
    m.withoutMethods.definition? name = (m.definition? name).map Documented.withoutMethods := by
  unfold Module.definition? Module.withoutMethods
  rw [List.findSome?_map, List.map_findSome?]
  congr 1
  funext item
  exact item.definition?_withoutMethods name

theorem Module.importOf?_withoutMethods (m : Module) (name : String) :
    m.withoutMethods.importOf? name = m.importOf? name := by
  unfold Module.importOf? Module.withoutMethods
  rw [List.findSome?_map]
  congr 1
  funext item
  cases item <;> rfl

theorem Module.exportAlias?_withoutMethods (m : Module) (name : String) :
    m.withoutMethods.exportAlias? name = m.exportAlias? name := by
  unfold Module.exportAlias? Module.withoutMethods
  rw [List.findSome?_map]
  congr 1
  funext item
  cases item <;> rfl

theorem Module.exportedAll_withoutMethods (m : Module) :
    m.withoutMethods.exportedAll = m.exportedAll := by
  unfold Module.exportedAll Module.withoutMethods
  rw [List.filterMap_map]
  congr 1
  funext item
  cases item <;> rfl

/-! ## Libraries -/

theorem Library.load?_withoutMethods (library : Library) (m : Module) (specifier : String) :
    library.withoutMethods.load? m.withoutMethods specifier =
      (library.load? m specifier).map (Option.map Module.withoutMethods) := by
  unfold Library.load?
  rw [Module.path_withoutMethods]
  split
  · have hfind : (candidates (joinSpecifier m.path specifier)).findSome? library.withoutMethods.find? =
        ((candidates (joinSpecifier m.path specifier)).findSome? library.find?).map
          (Except.map Module.withoutMethods) := by
      rw [List.map_findSome?]
      rfl
    rw [hfind]
    rcases (candidates (joinSpecifier m.path specifier)).findSome? library.find? with _ | found | e
    · rfl
    · rfl
    · rfl
  · rfl

theorem Library.insert_withoutMethods (library : Library) (m : Module) :
    (library.insert m).withoutMethods = library.withoutMethods.insert m.withoutMethods := by
  unfold Library.insert Library.withoutMethods
  congr 1
  · funext path
    show Option.map _ (if path = m.path then _ else _) = if path = m.path then _ else _
    split
    · rfl
    · rfl
  · simp [Module.withoutMethods]

end Source

namespace Resolution

open Source

/-! ## Where names are declared -/

/-- The place of a declaration in the module without functions. -/
def Location.withoutMethods (l : Location) : Location :=
  { l with module := l.module.withoutMethods }

/-- A search and the search without functions find the same. -/
def SameSearch (search search' : Module → String → Except Error (Option Location)) : Prop :=
  ∀ m name, search' m.withoutMethods name = (search m name).map (Option.map Location.withoutMethods)

theorem inModule_withoutMethods {library : Library} {m : Module} {specifier : String}
    {search search' : Module → Except Error (Option Location)}
    (h : ∀ m, search' m.withoutMethods = (search m).map (Option.map Location.withoutMethods)) :
    inModule library.withoutMethods m.withoutMethods specifier search' =
      (inModule library m specifier search).map (Option.map Location.withoutMethods) := by
  unfold inModule
  rw [Library.load?_withoutMethods]
  rcases library.load? m specifier with e | _ | target
  · rfl
  · rfl
  · exact h target

theorem firstFound_map {search search' : String → Except Error (Option Location)} {specifiers : List String}
    (h : ∀ s, search' s = (search s).map (Option.map Location.withoutMethods)) :
    firstFound search' specifiers =
      (firstFound search specifiers).map (Option.map Location.withoutMethods) := by
  induction specifiers with
  | nil => rfl
  | cons s rest ih =>
    unfold firstFound
    rw [h s]
    rcases search s with e | _ | found
    · rfl
    · exact ih
    · rfl

theorem locateWith_withoutMethods {library : Library}
    {search search' : Module → String → Except Error (Option Location)} (h : SameSearch search search') :
    SameSearch (locateWith library search) (locateWith library.withoutMethods search') := by
  intro m name
  unfold locateWith
  rw [Module.definition?_withoutMethods, Option.isSome_map, Module.importOf?_withoutMethods]
  split
  · rfl
  · cases m.importOf? name with
    | none => rfl
    | some origin => exact inModule_withoutMethods fun target => h target origin.name

theorem locateExport_withoutMethods (library : Library) (steps : Nat) :
    SameSearch (locateExport library steps) (locateExport library.withoutMethods steps) := by
  -- A name of the module itself uses up two steps, so that the bound is needed for all smaller ones.
  induction steps using Nat.strongRecOn with
  | ind steps ih =>
    intro m name
    cases steps with
    | zero => rfl
    | succ steps =>
      unfold locateExport
      rw [Module.definition?_withoutMethods, Option.isSome_map, Module.exportAlias?_withoutMethods,
        Module.exportedAll_withoutMethods]
      split
      · rfl
      · rcases m.exportAlias? name with _ | (localName | origin)
        · exact firstFound_map fun specifier => inModule_withoutMethods fun target =>
            ih steps (Nat.lt_succ_self steps) target name
        · apply locateWith_withoutMethods
          intro target name
          cases steps with
          | zero => rfl
          | succ steps => exact ih steps (by omega) target name
        · exact inModule_withoutMethods fun target => ih steps (Nat.lt_succ_self steps) target origin.name

theorem locate_withoutMethods (library : Library) :
    SameSearch (locate library) (locate library.withoutMethods) :=
  locateWith_withoutMethods (locateExport_withoutMethods library longestChain)

/-! ## What types mean -/

theorem ofSearch_map_bind {α β γ : Type} (result : Except Error α) (f : α → β) (k : β → Resolve γ) :
    (ofSearch (result.map f) >>= k) = (ofSearch result >>= fun a => k (f a)) := by
  cases result with
  | ok a => rfl
  | error e => rfl

/-- Two resolvers of names give the same, the second one in modules without functions. -/
def SameNames (resolve resolve' : NameResolver) : Prop :=
  ∀ m name, resolve' m.withoutMethods name = resolve m name

section

variable {resolve resolve' : NameResolver}

theorem eq_stepwise : Stepwise fun α => @Eq (Resolve α) where
  pure _ := rfl
  throw _ := rfl
  bind hx hf := by rw [hx, funext hf]
  search := by
    intro α β result f g h
    cases result with
    | ok a => exact h a rfl
    | error e => rfl

theorem SameNames.related (h : SameNames resolve resolve') (m : Module) :
    NamesRelated (fun α => @Eq (Resolve α)) resolve' resolve m.withoutMethods m :=
  ⟨rfl, h m⟩

theorem meaning_withoutMethods (h : SameNames resolve resolve') (m : Module) (generics : List String)
    (type : TypeExpr) :
    meaning resolve' m.withoutMethods generics type = meaning resolve m generics type :=
  meaning_related eq_stepwise (h.related m) generics type

theorem meaning?_withoutMethods (h : SameNames resolve resolve') (m : Module) (generics : List String)
    (type : Option TypeExpr) :
    meaning? resolve' m.withoutMethods generics type = meaning? resolve m generics type :=
  meaning?_related eq_stepwise (h.related m) generics type

theorem fieldsOf_withoutMethods (h : SameNames resolve resolve') (m : Module) (generics : List String)
    (members : List TypeMember) :
    fieldsOf resolve' m.withoutMethods generics members = fieldsOf resolve m generics members :=
  fieldsOf_related eq_stepwise (h.related m) generics members

/-! ## Bodies of declarations -/

theorem classFields_withoutMethods (h : SameNames resolve resolve') (owner : Module) (generics : List String)
    (members : List ClassMember) :
    classFields resolve' owner.withoutMethods generics (members.filter fun member => !member.isMethod) =
      classFields resolve owner generics members := by
  -- A method adds no field, and without it the rest is the same.
  induction members with
  | nil => rfl
  | cons member rest ih =>
    cases member with
    | method method => exact ih
    | property p =>
      have hkeep : (ClassMember.property p :: rest).filter (fun member => !member.isMethod) =
          .property p :: rest.filter fun member => !member.isMethod := rfl
      simp only [hkeep, classFields, ih, meaning?_withoutMethods h owner generics p.type,
        Module.path_withoutMethods]
    | other => exact ih

theorem baseFields_withoutMethods (h : SameNames resolve resolve') {scope scope' : Scope}
    (hlibrary : scope'.library = scope.library.withoutMethods)
    {inherit? inherit?' : Option (Module → InterfaceSyntax → Resolve (List Field))}
    (hinherit : inherit?' = none ∧ inherit? = none ∨ ∃ inherit inherit',
      inherit?' = some inherit' ∧ inherit? = some inherit ∧
        ∀ m i, inherit' m.withoutMethods i = inherit m i)
    (owner : Module) (base : Option String) :
    baseFields scope' resolve' inherit?' owner.withoutMethods base =
      baseFields scope resolve inherit? owner base := by
  cases base with
  | none => rfl
  | some base =>
    rcases hinherit with ⟨rfl, rfl⟩ | ⟨inherit, inherit', rfl, rfl, hsame⟩
    · rfl
    · unfold baseFields
      dsimp only
      rw [hlibrary, locate_withoutMethods, ofSearch_map_bind]
      congr 1
      funext found
      cases found with
      | none => rfl
      | some location =>
        dsimp only [Option.map, Location.withoutMethods]
        rw [Module.definition?_withoutMethods]
        -- Only a class loses something, and the fields of a class are not among it.
        rcases location.module.definition? location.name with _ | ⟨definition, docs⟩
        · rfl
        · match definition with
          | .interface i => exact hsame location.module i
          | .alias a =>
            dsimp only [Option.map, Documented.withoutMethods, Definition.withoutMethods]
            split
            · exact fieldsOf_withoutMethods h location.module a.typeParameters _
            · rfl
          | .classDefinition name body =>
            exact classFields_withoutMethods h location.module body.typeParameters body.members
          | .enumeration e => rfl

theorem interfaceFields_withoutMethods (h : SameNames resolve resolve') {scope scope' : Scope}
    (hlibrary : scope'.library = scope.library.withoutMethods) (depth : Nat) (owner : Module)
    (i : InterfaceSyntax) :
    interfaceFields scope' resolve' depth owner.withoutMethods i =
      interfaceFields scope resolve depth owner i := by
  induction depth generalizing owner i with
  | zero =>
    have hbases : baseFields scope' resolve' none owner.withoutMethods =
        baseFields scope resolve none owner :=
      funext fun base => baseFields_withoutMethods h hlibrary (.inl ⟨rfl, rfl⟩) owner base
    unfold interfaceFields
    dsimp only
    rw [hbases, fieldsOf_withoutMethods h]
  | succ depth ih =>
    have hbases :
        baseFields scope' resolve' (some (interfaceFields scope' resolve' depth)) owner.withoutMethods =
          baseFields scope resolve (some (interfaceFields scope resolve depth)) owner :=
      funext fun base => baseFields_withoutMethods h hlibrary (.inr ⟨_, _, rfl, rfl, ih⟩) owner base
    unfold interfaceFields
    dsimp only
    rw [hbases, fieldsOf_withoutMethods h]

theorem definitionBody_withoutMethods (h : SameNames resolve resolve') {scope scope' : Scope}
    (hlibrary : scope'.library = scope.library.withoutMethods) (owner : Module) (definition : Definition) :
    definitionBody scope' resolve' owner.withoutMethods definition.withoutMethods =
      definitionBody scope resolve owner definition := by
  match definition with
  | .enumeration e => rfl
  | .alias a =>
    unfold definitionBody
    dsimp only [Definition.withoutMethods]
    split
    · rw [fieldsOf_withoutMethods h]
    · rw [meaning_withoutMethods h]
  | .interface i =>
    unfold definitionBody
    dsimp only [Definition.withoutMethods]
    rw [interfaceFields_withoutMethods h hlibrary]
  | .classDefinition name body =>
    unfold definitionBody
    dsimp only [Definition.withoutMethods, ClassSyntax.withoutMethods]
    rw [classFields_withoutMethods h]

end

theorem kindOf_withoutMethods (definition : Definition) :
    kindOf definition.withoutMethods = kindOf definition := by
  cases definition <;> rfl

/-! ## Names and signatures -/

/-- The scope with the library of modules without functions. -/
def Scope.withoutMethods (scope : Scope) : Scope :=
  { scope with library := scope.library.withoutMethods }

theorem unknownMeaning_withoutMethods (scope : Scope) (m : Module) (name : String) :
    unknownMeaning scope.withoutMethods m.withoutMethods name = unknownMeaning scope m name := by
  unfold unknownMeaning
  rw [Module.importOf?_withoutMethods, Module.path_withoutMethods]
  rfl

theorem resolveNamed_withoutMethods (scope : Scope) (budget : Nat) :
    SameNames (resolveNamed scope budget) (resolveNamed scope.withoutMethods budget) := by
  induction budget with
  | zero =>
    intro m name
    unfold resolveNamed
    rw [unknownMeaning_withoutMethods]
  | succ budget ih =>
    intro m name
    have hlibrary : scope.withoutMethods.library = scope.library.withoutMethods := rfl
    unfold resolveNamed resolveWith
    rw [hlibrary, locate_withoutMethods, ofSearch_map_bind, unknownMeaning_withoutMethods]
    congr 1
    funext found
    cases found with
    | none => rfl
    | some location =>
      dsimp only [Option.map, Location.withoutMethods]
      rw [Module.definition?_withoutMethods, Module.modulePath_withoutMethods]
      -- Whether the key has a place does not depend on the modules, only on the table.
      congr 1
      funext t
      rcases t.kind? ⟨location.name, location.module.modulePath⟩ with _ | kind
      · rcases location.module.definition? location.name with _ | found
        · rfl
        · dsimp only [Option.map, Documented.withoutMethods]
          rw [kindOf_withoutMethods, definitionBody_withoutMethods ih hlibrary]
      · rcases location.module.definition? location.name with _ | found
        · rfl
        · rfl

theorem resolve_withoutMethods (scope : Scope) : SameNames scope.resolve scope.withoutMethods.resolve :=
  resolveNamed_withoutMethods scope (scope.library.size + 1)

/-- A signature is the same in modules without functions, and whichever other members its class has. -/
theorem signature_withoutMethods (scope : Scope) (m : Module) {c c' : ExportedClass} (hname : c'.name = c.name)
    (hgenerics : c'.body.typeParameters = c.body.typeParameters) (candidate : Candidate) :
    signature scope.withoutMethods m.withoutMethods c' candidate = signature scope m c candidate :=
  signature_related eq_stepwise ((resolve_withoutMethods scope).related m) hname hgenerics candidate

end Resolution

end ServiceStubs
