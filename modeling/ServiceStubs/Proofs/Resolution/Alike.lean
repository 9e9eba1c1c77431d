import ServiceStubs.Resolution.Signature

/-!
# Resolvers of names that are alike

Whatever the resolver makes of types and declarations it makes out of the meanings of names, step by step.
So a relation between computations that follows their steps holds of the meanings of types, and of the
bodies of declarations, as soon as it holds of the meanings of names.

* `Stepwise` is the condition on the relation;
* `NamesRelated` says that names have related meanings as seen from two modules, and `Alike` that two
  resolvers give related meanings in all modules of some class;
* `meaning_related` and its companions follow the syntax of types;
* `definitionBody_related`, `resolveWith_related`, `signature_related` and `classMethods_related` are the cases
  of a declaration, of a name, of a method and of a class.
-/

namespace ServiceStubs.Resolution

open Source

/-! ## Relations that follow steps -/

variable {μ ν : Type → Type} [Monad μ] [MonadExceptOf Error μ] [Monad ν] [MonadExceptOf Error ν]

/-- The relation holds of computations that do related steps one after the other. What follows a search is
looked at only for what the search gives. -/
structure Stepwise (R : ∀ α : Type, μ α → ν α → Prop) : Prop where
  pure : ∀ {α : Type} (a : α), R α (pure a) (pure a)
  throw : ∀ {α : Type} (e : Error), R α (throw e) (throw e)
  bind : ∀ {α β : Type} {x : μ α} {y : ν α} {f : α → μ β} {g : α → ν β},
    R α x y → (∀ a, R β (f a) (g a)) → R β (x >>= f) (y >>= g)
  search : ∀ {α β : Type} {result : Except Error α} {f : α → μ β} {g : α → ν β},
    (∀ a, result = .ok a → R β (f a) (g a)) → R β (ofSearch result >>= f) (ofSearch result >>= g)

theorem ofSearch_error_bind {α β : Type} (e : Error) (f : α → Resolve β) :
    (ofSearch (.error e) >>= f) = throw e := rfl

theorem ofSearch_ok_bind {α β : Type} (a : α) (f : α → Resolve β) : (ofSearch (.ok a) >>= f) = f a := rfl

variable {R : ∀ α : Type, μ α → ν α → Prop}

theorem Stepwise.ofSearch (hR : Stepwise R) {α : Type} (result : Except Error α) :
    R α (ofSearch result) (ofSearch result) := by
  cases result with
  | ok a => exact hR.pure a
  | error e => exact hR.throw e

theorem Stepwise.mapM [LawfulMonad μ] [LawfulMonad ν] (hR : Stepwise R) {α β : Type} {f : α → μ β}
    {g : α → ν β} (xs : List α)
    (h : ∀ x ∈ xs, R β (f x) (g x)) : R (List β) (xs.mapM f) (xs.mapM g) := by
  induction xs with
  | nil => exact hR.pure []
  | cons x rest ih =>
    rw [List.mapM_cons, List.mapM_cons]
    refine hR.bind (h x List.mem_cons_self) fun first => ?_
    refine hR.bind (ih fun y hy => h y (List.mem_cons_of_mem x hy)) fun others => ?_
    exact hR.pure (first :: others)

/-! ## Types -/

/-- Names have related meanings as seen from two modules, which are called the same in messages. -/
structure NamesRelated (R : ∀ α : Type, μ α → ν α → Prop) (resolve : NameResolver μ)
    (resolve' : NameResolver ν) (m m' : Module) : Prop where
  path : m.path = m'.path
  names : ∀ name, R _ (resolve m name) (resolve' m' name)

section

variable {resolve : NameResolver μ} {resolve' : NameResolver ν} {m m' : Module}

/-- Members that are more than one index signature make a record. -/
theorem record_related (hR : Stepwise R) {generics : List String} {members : List TypeMember}
    (hnot : ∀ key value, members = [.index key value] → False)
    (hfields : R _ (fieldsOf resolve m generics members) (fieldsOf resolve' m' generics members)) :
    R _ (meaning resolve m generics (.members members)) (meaning resolve' m' generics (.members members)) := by
  rw [meaning, meaning]
  · exact hR.bind hfields fun fields => hR.pure (DataType.record fields)
  · exact hnot
  · exact hnot

mutual

theorem meaning_related (hR : Stepwise R) (h : NamesRelated R resolve resolve' m m')
    (generics : List String) (type : TypeExpr) :
    R _ (meaning resolve m generics type) (meaning resolve' m' generics type) := by
  -- One case for each equation of `meaning`; members are the only ones that are told apart by their number.
  match type with
  | .keyword word =>
    rw [meaning, meaning]
    exact hR.pure _
  | .array item =>
    rw [meaning, meaning]
    exact hR.bind (meaning_related hR h generics item) fun type => hR.pure (DataType.array type)
  | .reference name arguments =>
    rw [meaning, meaning]
    split
    · exact hR.pure _
    · refine hR.bind (meanings_related hR h generics arguments) fun types => ?_
      split
      · exact hR.pure _
      · exact h.names name
  | .members [.index key value] =>
    rw [meaning, meaning]
    refine hR.bind (meaning?_related hR h generics key) fun key => ?_
    exact hR.bind (meaning?_related hR h generics value) fun value => hR.pure (DataType.map key value)
  | .members [] => exact record_related hR (by simp) (fieldsOf_related hR h generics [])
  | .members (.property name optional type :: rest) =>
    exact record_related hR (by simp) (fieldsOf_related hR h generics (.property name optional type :: rest))
  | .members (.other :: rest) =>
    exact record_related hR (by simp) (fieldsOf_related hR h generics (.other :: rest))
  | .members (.index key value :: second :: rest) =>
    exact record_related hR (by simp) (fieldsOf_related hR h generics (.index key value :: second :: rest))
  | .union alternatives =>
    rw [meaning, meaning]
    exact hR.bind (meanings_related hR h generics alternatives) fun types => hR.pure (DataType.union types)
  | .parenthesized inner =>
    rw [meaning, meaning]
    exact meaning_related hR h generics inner
  | .readOnly inner =>
    rw [meaning, meaning]
    exact meaning_related hR h generics inner
  | .literal kind =>
    rw [meaning, meaning]
    exact hR.pure _
  | .other =>
    rw [meaning, meaning]
    exact hR.pure _

theorem meaning?_related (hR : Stepwise R) (h : NamesRelated R resolve resolve' m m')
    (generics : List String) (type : Option TypeExpr) :
    R _ (meaning? resolve m generics type) (meaning? resolve' m' generics type) := by
  match type with
  | some type =>
    rw [meaning?, meaning?]
    exact meaning_related hR h generics type
  | none =>
    rw [meaning?, meaning?]
    exact hR.pure _

theorem meanings_related (hR : Stepwise R) (h : NamesRelated R resolve resolve' m m')
    (generics : List String) (types : List TypeExpr) :
    R _ (meanings resolve m generics types) (meanings resolve' m' generics types) := by
  match types with
  | [] =>
    rw [meanings, meanings]
    exact hR.pure _
  | type :: rest =>
    rw [meanings, meanings]
    refine hR.bind (meaning_related hR h generics type) fun first => ?_
    exact hR.bind (meanings_related hR h generics rest) fun others => hR.pure (first :: others)

theorem fieldsOf_related (hR : Stepwise R) (h : NamesRelated R resolve resolve' m m')
    (generics : List String) (members : List TypeMember) :
    R _ (fieldsOf resolve m generics members) (fieldsOf resolve' m' generics members) := by
  match members with
  | [] =>
    rw [fieldsOf, fieldsOf]
    exact hR.pure _
  -- A field without a plain name is an error, in whose message the module is called the same.
  | .property .computed _ _ :: _ =>
    rw [fieldsOf, fieldsOf, h.path]
    exact hR.throw _
  | .property (.named name) optional type :: rest =>
    rw [fieldsOf, fieldsOf]
    refine hR.bind (meaning?_related hR h generics type) fun type => ?_
    exact hR.bind (fieldsOf_related hR h generics rest) fun others => hR.pure (⟨name, optional, type⟩ :: others)
  | .property .number _ _ :: _ =>
    rw [fieldsOf, fieldsOf, h.path]
    · exact hR.throw _
    all_goals simp
  | .property .hidden _ _ :: _ =>
    rw [fieldsOf, fieldsOf, h.path]
    · exact hR.throw _
    all_goals simp
  | .index _ _ :: rest =>
    rw [fieldsOf, fieldsOf]
    exact fieldsOf_related hR h generics rest
  | .other :: rest =>
    rw [fieldsOf, fieldsOf]
    exact fieldsOf_related hR h generics rest

end

theorem classFields_related (hR : Stepwise R) (h : NamesRelated R resolve resolve' m m')
    (generics : List String) (members : List ClassMember) :
    R _ (classFields resolve m generics members) (classFields resolve' m' generics members) := by
  induction members with
  | nil =>
    rw [classFields, classFields]
    exact hR.pure _
  | cons member rest ih =>
    cases member with
    | property p =>
      rw [classFields, classFields]
      split
      · exact ih
      · split
        · refine hR.bind (meaning?_related hR h generics p.type) fun type => ?_
          exact hR.bind ih fun others => hR.pure (_ :: others)
        · rw [h.path]
          exact hR.throw _
    | method method =>
      rw [classFields, classFields]
      exact ih
    | other =>
      rw [classFields, classFields]
      exact ih

end

/-! ## Bodies of declarations -/

/-- Two resolvers give related meanings of names in all modules of a class, and the search for names, which
is the same for both, stays in this class. -/
structure Alike (R : ∀ α : Type, μ α → ν α → Prop) (among : Module → Prop) (scope scope' : Scope)
    (resolve : NameResolver μ) (resolve' : NameResolver ν) : Prop where
  names : ∀ m, among m → NamesRelated R resolve resolve' m m
  same : ∀ m name, among m → locate scope.library m name = locate scope'.library m name
  stays : ∀ m name location, among m → locate scope'.library m name = .ok (some location) →
    among location.module

variable {among : Module → Prop} {scope scope' : Scope} {resolve : NameResolver μ} {resolve' : NameResolver ν}

/-- What follows a search for a name, where it is only looked at what the search finds. -/
theorem search_related {α : Type} (hR : Stepwise R) (h : Alike R among scope scope' resolve resolve')
    {owner : Module} (howner : among owner) (name : String) {f : Option Location → μ α}
    {g : Option Location → ν α} (hnone : R α (f none) (g none))
    (hsome : ∀ location, among location.module → R α (f (some location)) (g (some location))) :
    R α (ofSearch (locate scope.library owner name) >>= f) (ofSearch (locate scope'.library owner name) >>= g) := by
  rw [h.same owner name howner]
  refine hR.search fun found hlocate => ?_
  cases found with
  | none => exact hnone
  | some location => exact hsome location (h.stays owner name location howner hlocate)

/-- Interfaces are followed to the same depth, if they are followed at all. -/
def AlikeBases (R : ∀ α : Type, μ α → ν α → Prop) (among : Module → Prop) :
    Option (Module → InterfaceSyntax → μ (List Field)) → Option (Module → InterfaceSyntax → ν (List Field)) →
      Prop
  | none, none => True
  | some inherit, some inherit' => ∀ m i, among m → R _ (inherit m i) (inherit' m i)
  | _, _ => False

theorem baseFields_related (hR : Stepwise R) (h : Alike R among scope scope' resolve resolve')
    {inherit? : Option (Module → InterfaceSyntax → μ (List Field))}
    {inherit?' : Option (Module → InterfaceSyntax → ν (List Field))}
    (hinherit : AlikeBases R among inherit? inherit?') {owner : Module} (howner : among owner)
    (base : Option String) :
    R _ (baseFields scope resolve inherit? owner base) (baseFields scope' resolve' inherit?' owner base) := by
  unfold baseFields
  cases base with
  | none => exact hR.pure _
  | some base =>
    -- Where no more bases are followed both sides fail; elsewhere they are followed by functions that are related.
    match inherit?, inherit?', hinherit with
    | none, none, _ => exact hR.throw _
    | some inherit, some inherit', hinherit =>
      refine search_related hR h howner base (hR.throw _) fun location hlocation => ?_
      have hnames := h.names location.module hlocation
      dsimp only
      split
      · exact hinherit _ _ hlocation
      · split
        · exact fieldsOf_related hR hnames _ _
        · exact hR.pure _
      · exact classFields_related hR hnames _ _
      · exact hR.pure _

theorem interfaceFields_related [LawfulMonad μ] [LawfulMonad ν] (hR : Stepwise R) (h : Alike R among scope scope' resolve resolve')
    (depth : Nat) {owner : Module} (howner : among owner) (i : InterfaceSyntax) :
    R _ (interfaceFields scope resolve depth owner i) (interfaceFields scope' resolve' depth owner i) := by
  -- Every base is followed to a smaller depth.
  have hstep : ∀ {inherit? : Option (Module → InterfaceSyntax → μ (List Field))}
      {inherit?' : Option (Module → InterfaceSyntax → ν (List Field))},
      AlikeBases R among inherit? inherit?' → ∀ {owner : Module}, among owner → ∀ i : InterfaceSyntax,
      R (List Field)
        (do
          let inherited ← i.bases.mapM (baseFields scope resolve inherit? owner)
          let own ← fieldsOf resolve owner i.typeParameters i.members
          return overridden inherited.flatten own)
        (do
          let inherited ← i.bases.mapM (baseFields scope' resolve' inherit?' owner)
          let own ← fieldsOf resolve' owner i.typeParameters i.members
          return overridden inherited.flatten own) := by
    intro inherit? inherit?' hinherit owner howner i
    refine hR.bind (hR.mapM i.bases fun base _ => baseFields_related hR h hinherit howner base) fun inherited => ?_
    exact hR.bind (fieldsOf_related hR (h.names owner howner) _ _) fun own => hR.pure _
  induction depth generalizing owner i with
  | zero =>
    have hbases : AlikeBases R among none none := trivial
    unfold interfaceFields
    exact hstep hbases howner i
  | succ depth ih =>
    have hbases : AlikeBases R among (some (interfaceFields scope resolve depth))
        (some (interfaceFields scope' resolve' depth)) := fun m i hm => ih hm i
    unfold interfaceFields
    exact hstep hbases howner i

theorem definitionBody_related [LawfulMonad μ] [LawfulMonad ν] (hR : Stepwise R) (h : Alike R among scope scope' resolve resolve')
    {owner : Module} (howner : among owner) (definition : Definition) :
    R _ (definitionBody scope resolve owner definition) (definitionBody scope' resolve' owner definition) := by
  have hnames := h.names owner howner
  match definition with
  | .enumeration e => exact hR.bind (hR.ofSearch _) fun cases => hR.pure (DeclBody.enumeration cases)
  | .alias a =>
    unfold definitionBody
    dsimp only
    split
    · exact hR.bind (fieldsOf_related hR hnames _ _) fun fields => hR.pure (DeclBody.record fields)
    · exact hR.bind (meaning_related hR hnames _ _) fun type => hR.pure (DeclBody.alias type)
  | .interface i =>
    exact hR.bind (interfaceFields_related hR h _ howner i) fun fields => hR.pure (DeclBody.record fields)
  | .classDefinition name body =>
    exact hR.bind (classFields_related hR hnames _ _) fun fields => hR.pure (DeclBody.record fields)

/-- The meanings of a name are related if the bodies of declarations are, in monads that treat the table
alike. -/
theorem resolveWith_related [MonadStateOf Table μ] [MonadStateOf Table ν] (hR : Stepwise R)
    (hget : R Table get get) (hmodify : ∀ f : Table → Table, R PUnit (modify f) (modify f)) (scope : Scope)
    {body : Location → Definition → μ DeclBody} {body' : Location → Definition → ν DeclBody}
    (hbody : ∀ location found, R _ (body location found) (body' location found)) (m : Module) (name : String) :
    R _ (resolveWith scope body m name) (resolveWith scope body' m name) := by
  unfold resolveWith
  refine hR.search fun found _ => ?_
  cases found with
  | none => exact hR.ofSearch _
  | some location =>
    refine hR.bind hget fun t => ?_
    dsimp only
    split
    · exact hR.pure _
    · exact hR.ofSearch _
    · refine hR.bind (hmodify _) fun _ => hR.bind (hbody location _) fun body => ?_
      exact hR.bind (hmodify _) fun _ => hR.pure _

/-! ## Methods -/

theorem parameterMeaning_related (hR : Stepwise R) {m m' : Module} (h : NamesRelated R resolve resolve' m m')
    (generics : List String) (className methodName : String) (parameter : ParameterSyntax) :
    R _ (parameterMeaning resolve m generics className methodName parameter)
      (parameterMeaning resolve' m' generics className methodName parameter) := by
  cases parameter with
  | plain name optional type =>
    exact hR.bind (meaning?_related hR h generics type) fun type => hR.pure (Parameter.mk name type optional none)
  | defaulted name type value =>
    exact hR.bind (meaning?_related hR h generics type) fun type => hR.pure (Parameter.mk name type true _)
  | pattern =>
    unfold parameterMeaning
    rw [h.path]
    exact hR.throw _

/-- The signature of a method looks at its class for the name and the type parameters only. -/
theorem signature_related [LawfulMonad μ] [LawfulMonad ν] (hR : Stepwise R) {m m' : Module}
    (h : NamesRelated R resolve resolve' m m') {c c' : ExportedClass} (hname : c.name = c'.name)
    (hgenerics : c.body.typeParameters = c'.body.typeParameters) (candidate : Candidate) :
    R _ (signatureWith resolve m c candidate) (signatureWith resolve' m' c' candidate) := by
  unfold signatureWith
  rw [hname, hgenerics]
  refine hR.bind (hR.mapM _ fun p _ => parameterMeaning_related hR h _ _ _ p) fun params => ?_
  dsimp only
  split
  · exact hR.bind (meaning_related hR h _ _) fun returns => hR.pure _
  · exact hR.bind (hR.pure _) fun returns => hR.pure _

/-- The methods of a class are related if those that clients do not have are. -/
theorem classMethods_related [LawfulMonad μ] [LawfulMonad ν] (hR : Stepwise R) {m : Module}
    {strict lenient : NameResolver μ} {strict' lenient' : NameResolver ν} {giveUp : μ Unit} {giveUp' : ν Unit}
    (h : NamesRelated R strict strict' m m) {c : ExportedClass}
    (hlenient : ∀ candidate, R _ (lenientSignatureWith lenient giveUp m c candidate)
      (lenientSignatureWith lenient' giveUp' m c candidate))
    (candidates : List Candidate) :
    R _ (classMethodsWith strict lenient giveUp m c candidates)
      (classMethodsWith strict' lenient' giveUp' m c candidates) := by
  have hcallable : ∀ candidate : Candidate, R (Option Method)
      (if candidate.exposure.isCallable then some <$> signatureWith strict m c candidate else pure none)
      (if candidate.exposure.isCallable then some <$> signatureWith strict' m c candidate else pure none) := by
    intro candidate
    split
    · rw [map_eq_pure_bind, map_eq_pure_bind]
      exact hR.bind (signature_related hR h rfl rfl candidate) fun method => hR.pure (some method)
    · exact hR.pure none
  unfold classMethodsWith
  -- First the methods that clients have, then the others, each of which finds what has been resolved beside it.
  refine hR.bind (hR.mapM candidates fun candidate _ => hcallable candidate) fun callable => ?_
  refine hR.mapM _ fun pair _ => ?_
  obtain ⟨candidate, resolved⟩ := pair
  cases resolved with
  | none => exact hlenient candidate
  | some method => exact hR.pure method

end ServiceStubs.Resolution
