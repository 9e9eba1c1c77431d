import ServiceStubs.Proofs.Resolution.Growth

/-!
# References that resolving hands out

Every computation of the resolver hands out references into the table only, whether the declarations they
point at are finished or still on the way.

* `meaning_enters` and its companions follow the syntax of types;
* `resolveNamed_enters` is the case of a name, by induction on the budget;
* `signature_enters` is the case of a whole method;
* `definitionBody_kind` says that a declaration becomes what the references to it already say.
-/

namespace ServiceStubs.Resolution

open Source

/-! ## Types -/

theorem builtin?_references {name : String} {arguments : List DataType} {type : DataType}
    (h : builtin? name arguments = some type) :
    ∀ r ∈ type.references, r ∈ arguments.flatMap DataType.references := by
  have hfirst : ∀ r ∈ (arguments.head?.getD .any).references, r ∈ arguments.flatMap DataType.references := by
    intro r hr
    cases arguments with
    | nil => simp [DataType.references] at hr
    | cons a rest => exact List.mem_flatMap.mpr ⟨a, List.mem_cons_self, hr⟩
  have hsecond : ∀ r ∈ ((arguments.drop 1).head?.getD .any).references,
      r ∈ arguments.flatMap DataType.references := by
    intro r hr
    rcases arguments with _ | ⟨a, _ | ⟨b, rest⟩⟩
    · simp [DataType.references] at hr
    · simp [DataType.references] at hr
    · exact List.mem_flatMap.mpr ⟨b, by simp, hr⟩
  intro r hr
  -- A built-in type is made of its first arguments, with `any` in place of those that are missing.
  unfold builtin? at h
  split at h
  all_goals try cases h
  · simp only [DataType.references] at hr
    exact hfirst r hr
  · simp only [DataType.references] at hr
    exact hfirst r hr
  · simp only [DataType.references] at hr
    exact hfirst r hr
  · simp [DataType.references] at hr
  · simp only [DataType.references, List.mem_append] at hr
    exact hr.elim (hfirst r) (hsecond r)
  · simp only [DataType.references, List.mem_append] at hr
    exact hr.elim (hfirst r) (hsecond r)

theorem keywordMeaning_references (word : TypeKeyword) : (keywordMeaning word).references = [] := by
  cases word <;> simp [keywordMeaning, DataType.references]

theorem literalMeaning_references (kind : LiteralType) : (literalMeaning kind).references = [] := by
  cases kind <;> simp [literalMeaning, DataType.references]

/-- A resolver of names enters the declarations that it hands out references to. -/
def EntersNames (lost : TypeRef → Prop) (resolve : NameResolver) : Prop :=
  ∀ m name given, Enters lost given (resolve m name) DataType.references

variable {lost : TypeRef → Prop} {given : List TypeRef} {resolve : NameResolver}

/-- Members that are more than one index signature make a record. -/
theorem record_enters {m : Module} {generics : List String} {members : List TypeMember}
    (hnot : ∀ key value, members = [.index key value] → False)
    (hfields : Enters lost given (fieldsOf resolve m generics members)
      (List.flatMap fun f => f.type.references)) :
    Enters lost given (meaning resolve m generics (.members members)) DataType.references := by
  rw [meaning]
  · refine Enters.bind hfields ?_
    intro fields
    exact Enters.pure_last fun r hr => by simpa [DataType.references] using hr
  · exact hnot

mutual

theorem meaning_enters (hresolve : EntersNames lost resolve) (m : Module) (generics : List String)
    (type : TypeExpr) (given : List TypeRef) :
    Enters lost given (meaning resolve m generics type) DataType.references := by
  match type with
  | .keyword word =>
    rw [meaning]
    exact Enters.pure (by simp [keywordMeaning_references])
  | .array item =>
    rw [meaning]
    refine Enters.bind (meaning_enters hresolve m generics item given) ?_
    intro type
    exact Enters.pure_last fun r hr => by simpa [DataType.references] using hr
  | .reference name arguments =>
    rw [meaning]
    split
    · exact Enters.pure (by simp [DataType.references])
    · refine Enters.bind (meanings_enters hresolve m generics arguments given) ?_
      intro types
      split
      · rename_i type htype
        exact Enters.pure_last (builtin?_references htype)
      · exact hresolve m name _
  -- The references of both parts have been given by then, those of the value last.
  | .members [.index key value] =>
    rw [meaning]
    refine Enters.bind (meaning?_enters hresolve m generics key given) ?_
    intro key
    refine Enters.bind (meaning?_enters hresolve m generics value _) ?_
    intro value
    apply Enters.pure
    intro r hr
    simp only [DataType.references, List.mem_append] at hr ⊢
    rcases hr with hr | hr
    · exact .inl (.inr hr)
    · exact .inr hr
  | .members [] => exact record_enters (by simp) (fieldsOf_enters hresolve m generics [] given)
  | .members (.property name optional type :: rest) =>
    exact record_enters (by simp)
      (fieldsOf_enters hresolve m generics (.property name optional type :: rest) given)
  | .members (.other :: rest) =>
    exact record_enters (by simp) (fieldsOf_enters hresolve m generics (.other :: rest) given)
  | .members (.index key value :: second :: rest) =>
    exact record_enters (by simp)
      (fieldsOf_enters hresolve m generics (.index key value :: second :: rest) given)
  | .union alternatives =>
    rw [meaning]
    refine Enters.bind (meanings_enters hresolve m generics alternatives given) ?_
    intro types
    exact Enters.pure_last fun r hr => by simpa [DataType.references] using hr
  | .parenthesized inner =>
    rw [meaning]
    exact meaning_enters hresolve m generics inner given
  | .readOnly inner =>
    rw [meaning]
    exact meaning_enters hresolve m generics inner given
  | .literal kind =>
    rw [meaning]
    exact Enters.pure (by simp [literalMeaning_references])
  | .other =>
    rw [meaning]
    exact Enters.pure (by simp [DataType.references])

theorem meaning?_enters (hresolve : EntersNames lost resolve) (m : Module) (generics : List String)
    (type : Option TypeExpr) (given : List TypeRef) :
    Enters lost given (meaning? resolve m generics type) DataType.references := by
  match type with
  | some type =>
    rw [meaning?]
    exact meaning_enters hresolve m generics type given
  | none =>
    rw [meaning?]
    exact Enters.pure (by simp [DataType.references])

theorem meanings_enters (hresolve : EntersNames lost resolve) (m : Module) (generics : List String)
    (types : List TypeExpr) (given : List TypeRef) :
    Enters lost given (meanings resolve m generics types) (List.flatMap DataType.references) := by
  match types with
  | [] =>
    rw [meanings]
    exact Enters.pure (by simp)
  | type :: rest =>
    rw [meanings]
    exact Enters.cons (meaning_enters hresolve m generics type given)
      (meanings_enters hresolve m generics rest) (fun first r hr => hr)

theorem fieldsOf_enters (hresolve : EntersNames lost resolve) (m : Module) (generics : List String)
    (members : List TypeMember) (given : List TypeRef) :
    Enters lost given (fieldsOf resolve m generics members)
      (List.flatMap fun f => f.type.references) := by
  match members with
  | [] =>
    rw [fieldsOf]
    exact Enters.pure (by simp)
  | .property .computed _ _ :: _ =>
    rw [fieldsOf]
    exact Enters.throw _ _
  | .property (.named name) optional type :: rest =>
    rw [fieldsOf]
    exact Enters.cons (meaning?_enters hresolve m generics type given)
      (fieldsOf_enters hresolve m generics rest) (fun first r hr => hr)
  | .property .number _ _ :: _ =>
    rw [fieldsOf]
    · exact Enters.throw _ _
    all_goals simp
  | .property .hidden _ _ :: _ =>
    rw [fieldsOf]
    · exact Enters.throw _ _
    all_goals simp
  | .index _ _ :: rest =>
    rw [fieldsOf]
    exact fieldsOf_enters hresolve m generics rest given
  | .other :: rest =>
    rw [fieldsOf]
    exact fieldsOf_enters hresolve m generics rest given

end

/-! ## Bodies of declarations -/

theorem classFields_enters (hresolve : EntersNames lost resolve) (owner : Module) (generics : List String)
    (members : List ClassMember) (given : List TypeRef) :
    Enters lost given (classFields resolve owner generics members)
      (List.flatMap fun f => f.type.references) := by
  induction members generalizing given with
  | nil =>
    rw [classFields]
    exact Enters.pure (by simp)
  | cons member rest ih =>
    cases member with
    | property p =>
      rw [classFields]
      split
      · exact ih given
      · split
        · exact Enters.cons (meaning?_enters hresolve owner generics p.type given) ih
            (fun first r hr => hr)
        · exact Enters.throw _ _
    | method method =>
      rw [classFields]
      exact ih given
    | other =>
      rw [classFields]
      exact ih given

theorem baseFields_enters {scope : Scope} (hresolve : EntersNames lost resolve)
    {inherit? : Option (Module → InterfaceSyntax → Resolve (List Field))}
    (hinherit : ∀ inherit, inherit? = some inherit → ∀ m i given,
      Enters lost given (inherit m i) (List.flatMap fun f => f.type.references))
    (owner : Module) (base : Option String) (given : List TypeRef) :
    Enters lost given (baseFields scope resolve inherit? owner base)
      (List.flatMap fun f => f.type.references) := by
  unfold baseFields
  cases base with
  | none => exact Enters.pure (by simp)
  | some base =>
    cases inherit? with
    | none => exact Enters.throw _ _
    | some inherit =>
      refine Enters.bind (Enters.ofSearch _ (fun _ => []) (fun _ _ => rfl)) ?_
      intro location
      cases location with
      | none => exact Enters.throw _ _
      | some location =>
        dsimp only
        split
        · exact hinherit inherit rfl _ _ _
        · split
          · exact fieldsOf_enters hresolve _ _ _ _
          · exact Enters.pure (by simp)
        · exact classFields_enters hresolve _ _ _ _
        · exact Enters.pure (by simp)

theorem mem_of_mem_overridden {inherited own : List Field} {f : Field} (h : f ∈ overridden inherited own) :
    f ∈ inherited ∨ f ∈ own := by
  rcases List.mem_append.mp h with hf | hf
  · exact .inl (List.mem_filter.mp hf).1
  · exact .inr hf

theorem overridden_enters {scope : Scope} (hresolve : EntersNames lost resolve)
    {inherit? : Option (Module → InterfaceSyntax → Resolve (List Field))}
    (hinherit : ∀ inherit, inherit? = some inherit → ∀ m i given,
      Enters lost given (inherit m i) (List.flatMap fun f => f.type.references))
    (owner : Module) (i : InterfaceSyntax) (given : List TypeRef) :
    Enters lost given
      (do
        let inherited ← i.bases.mapM (baseFields scope resolve inherit? owner)
        let own ← fieldsOf resolve owner i.typeParameters i.members
        return overridden inherited.flatten own)
      (List.flatMap fun f => f.type.references) := by
  refine Enters.bind (Enters.mapM i.bases fun base _ => baseFields_enters hresolve hinherit owner base) ?_
  intro inherited
  refine Enters.bind (fieldsOf_enters hresolve _ _ _ _) ?_
  intro own
  apply Enters.pure
  intro r hr
  obtain ⟨f, hf, hrf⟩ := List.mem_flatMap.mp hr
  -- A field that is left over is an inherited one or one of the interface itself.
  rcases mem_of_mem_overridden hf with hf | hf
  · obtain ⟨fields, hfields, hmem⟩ := List.mem_flatten.mp hf
    have hinherited : r ∈ inherited.flatMap (List.flatMap fun f => f.type.references) :=
      List.mem_flatMap.mpr ⟨fields, hfields, List.mem_flatMap.mpr ⟨f, hmem, hrf⟩⟩
    exact List.mem_append_left _ (List.mem_append_right _ hinherited)
  · exact List.mem_append_right _ (List.mem_flatMap.mpr ⟨f, hf, hrf⟩)

theorem interfaceFields_enters {scope : Scope} (hresolve : EntersNames lost resolve) (depth : Nat)
    (owner : Module) (i : InterfaceSyntax) (given : List TypeRef) :
    Enters lost given (interfaceFields scope resolve depth owner i)
      (List.flatMap fun f => f.type.references) := by
  -- The depth bounds the bases that are followed one after another, so every base is at a smaller one.
  induction depth generalizing owner i given with
  | zero =>
    unfold interfaceFields
    exact overridden_enters hresolve (by simp) owner i given
  | succ depth ih =>
    unfold interfaceFields
    refine overridden_enters hresolve ?_ owner i given
    intro inherit hinherit
    cases hinherit
    exact ih

/-- The references in the body of a declaration. -/
def bodyReferences : DeclBody → List TypeRef
  | .enumeration _ => []
  | .alias type => type.references
  | .record fields => fields.flatMap fun f => f.type.references

theorem references_eq_bodyReferences (d : Declaration) : d.references = bodyReferences d.body := by
  unfold Declaration.references bodyReferences
  cases d.body <;> rfl

theorem definitionBody_enters {scope : Scope} (hresolve : EntersNames lost resolve) (owner : Module)
    (definition : Definition) (given : List TypeRef) :
    Enters lost given (definitionBody scope resolve owner definition) bodyReferences := by
  match definition with
  | .enumeration e =>
    refine Enters.bind (Enters.ofSearch _ (fun _ => []) (fun _ _ => rfl)) ?_
    intro cases
    exact Enters.pure (by simp [bodyReferences])
  | .alias a =>
    unfold definitionBody
    dsimp only
    split
    · refine Enters.bind (fieldsOf_enters hresolve _ _ _ _) ?_
      intro fields
      exact Enters.pure_last fun r hr => hr
    · refine Enters.bind (meaning_enters hresolve _ _ _ _) ?_
      intro type
      exact Enters.pure_last fun r hr => hr
  | .interface i =>
    refine Enters.bind (interfaceFields_enters hresolve _ _ _ _) ?_
    intro fields
    exact Enters.pure_last fun r hr => hr
  | .classDefinition name body =>
    refine Enters.bind (classFields_enters hresolve _ _ _ _) ?_
    intro fields
    exact Enters.pure_last fun r hr => hr

/-- A declaration becomes of the kind that references to it have had from the beginning. -/
theorem definitionBody_kind (scope : Scope) (resolve : NameResolver) (owner : Module)
    (definition : Definition) (t : Table) :
    Ends (definitionBody scope resolve owner definition) t
      (fun body _ => body.kind = kindOf definition) (fun _ => True) := by
  have hreturn : ∀ {γ : Type} (x : Resolve γ) (make : γ → DeclBody),
      (∀ c, (make c).kind = kindOf definition) →
      Ends (x >>= fun c => pure (make c)) t (fun body _ => body.kind = kindOf definition)
        (fun _ => True) :=
    fun x make hmake => (ends_any x t).bind fun c _ _ => hmake c
  match definition with
  | .enumeration e => exact hreturn _ _ fun _ => rfl
  | .alias a =>
    unfold definitionBody
    dsimp only
    split
    · rename_i members hmembers
      exact hreturn _ _ fun _ => by simp [kindOf, hmembers, DeclBody.kind]
    · rename_i hmembers
      exact hreturn _ _ fun _ => by simp [kindOf, hmembers, DeclBody.kind]
  | .interface i => exact hreturn _ _ fun _ => rfl
  | .classDefinition name body => exact hreturn _ _ fun _ => rfl

/-! ## Names -/

/-- The meaning of an unknown name has no references. -/
theorem unknownMeaning_enters (scope : Scope) (m : Module) (name : String) (given : List TypeRef) :
    Enters lost given (ofSearch (unknownMeaning scope m name)) DataType.references := by
  apply Enters.ofSearch
  intro type htype
  unfold unknownMeaning at htype
  dsimp only at htype
  split at htype
  · cases htype
    simp [DataType.references]
  · cases htype

/-- Entering a declaration: its place is claimed, its body is resolved and it takes the place. -/
theorem enterDeclaration_enters {scope : Scope} (hresolve : EntersNames lost resolve) (owner : Module)
    (key : DeclKey) (found : Documented) {t : Table} (ht : t.Sound lost) (hfresh : t.kind? key = none) :
    Ends
      (do
        modify fun t => t.claim key (kindOf found.definition)
        let body ← definitionBody scope resolve owner found.definition
        modify fun t => t.finish ⟨key.name, key.modulePath, body, found.docs⟩
        return DataType.named ⟨key.name, key.modulePath, kindOf found.definition⟩)
      t
      (fun type t' => t'.Sound lost ∧ t.GrowsTo t' ∧ ∀ r ∈ type.references, t'.Finds r)
      (fun t' => t'.Sound lost ∧ t <+: t') := by
  have hclaim : (t.claim key (kindOf found.definition)).Sound lost := Table.sound_claim ht hfresh _
  have hplace : Ends (modify fun t => t.claim key (kindOf found.definition)) t
      (fun _ t' => t' = t.claim key (kindOf found.definition)) (fun t' => t'.Sound lost ∧ t <+: t') := rfl
  refine hplace.bind ?_
  rintro _ _ rfl
  -- While the body is resolved, the place is there, so that references back to it are found.
  have hbody : Ends (definitionBody scope resolve owner found.definition)
      (t.claim key (kindOf found.definition))
      (fun body t' => body.kind = kindOf found.definition ∧ t'.Sound lost ∧
        (t.claim key (kindOf found.definition)).GrowsTo t' ∧ ∀ r ∈ bodyReferences body, t'.Finds r)
      (fun t' => t'.Sound lost ∧ t <+: t') := by
    refine ((definitionBody_kind scope resolve owner found.definition _).and
      (definitionBody_enters hresolve owner found.definition [] _ hclaim (by simp))).mono ?_ ?_
    · exact fun body t' h => h
    · exact fun t' h => ⟨h.2.1, (List.prefix_append _ _).trans h.2.2⟩
  refine hbody.bind ?_
  rintro body t' ⟨hkind, hsound, ⟨new, rfl, hnew⟩, hrefs⟩
  -- The body is of the kind that was claimed for it, so that these references stay right.
  rw [← hkind] at hsound hrefs ⊢
  let d : Declaration := ⟨key.name, key.modulePath, body, found.docs⟩
  have hfill : Table.Sound lost (t ++ ⟨d.key, d.body.kind, some d⟩ :: new) := by
    apply Table.sound_fill hsound
    intro r hr
    exact hrefs r (references_eq_bodyReferences d ▸ hr)
  have hfinish : Ends (modify fun t => t.finish d) (t.claim key body.kind ++ new)
      (fun _ t' => t' = t ++ ⟨d.key, d.body.kind, some d⟩ :: new) (fun t' => t'.Sound lost ∧ t <+: t') :=
    Table.finish_claimed hsound.distinct
  refine hfinish.bind ?_
  rintro _ _ rfl
  refine ⟨hfill, ⟨⟨d.key, d.body.kind, some d⟩ :: new, rfl, ?_⟩, ?_⟩
  · intro s hs
    rcases List.mem_cons.mp hs with rfl | hs
    · rfl
    · exact hnew s hs
  · intro r hr
    simp only [DataType.references, List.mem_singleton] at hr
    subst hr
    exact (Table.kind?_eq_some_iff hfill.distinct).mpr
      ⟨⟨d.key, d.body.kind, some d⟩, by simp, rfl, rfl⟩

theorem resolveNamed_enters (scope : Scope) (budget : Nat) :
    EntersNames lost (resolveNamed scope budget) := by
  -- The budget bounds the declarations that are entered inside of each other.
  induction budget with
  | zero =>
    intro m name given
    exact unknownMeaning_enters scope m name given
  | succ budget ih =>
    intro m name given
    unfold resolveNamed resolveWith
    refine Enters.bind (Enters.ofSearch _ (fun _ => []) (fun _ _ => rfl)) ?_
    intro location
    cases location with
    | none => exact unknownMeaning_enters scope m name _
    | some location =>
      intro t ht hgiven
      have hget : Ends get t (fun before t' => before = t ∧ t' = t) (fun t' => t'.Sound lost ∧ t <+: t') :=
        ⟨rfl, rfl⟩
      refine hget.bind ?_
      rintro _ _ ⟨rfl, rfl⟩
      dsimp only
      split
      · -- The key has its place already, finished or not.
        rename_i kind hkind
        refine ⟨ht, .refl _, ?_⟩
        intro r hr
        simp only [DataType.references, List.mem_singleton] at hr
        subst hr
        exact hkind
      · exact unknownMeaning_enters scope m name _ _ ht hgiven
      · rename_i found hfresh _
        exact enterDeclaration_enters ih location.module _ found ht hfresh

/-! ## Methods -/

theorem parameterMeaning_enters (scope : Scope) (m : Module) (generics : List String)
    (className methodName : String) (parameter : ParameterSyntax) (given : List TypeRef) :
    Enters lost given (parameterMeaning scope.resolve m generics className methodName parameter)
      (fun p => p.type.references) := by
  have hresolve : EntersNames lost scope.resolve := resolveNamed_enters scope _
  cases parameter with
  | plain name optional type =>
    refine Enters.bind (meaning?_enters hresolve m generics type given) ?_
    intro type
    exact Enters.pure_last fun r hr => hr
  | defaulted name type value =>
    refine Enters.bind (meaning?_enters hresolve m generics type given) ?_
    intro type
    exact Enters.pure_last fun r hr => hr
  | pattern => exact Enters.throw _ _

theorem defaultResult_references (isAsync : Bool) : (defaultResult isAsync).references = [] := by
  cases isAsync <;> simp [defaultResult, DataType.references]

theorem signature_enters (scope : Scope) (m : Module) (c : ExportedClass) (candidate : Candidate)
    (given : List TypeRef) :
    Enters lost given (signature scope m c candidate) Method.references := by
  have hresolve : EntersNames lost scope.resolve := resolveNamed_enters scope _
  unfold signature signatureWith
  refine Enters.bind (Enters.mapM _ fun p _ => parameterMeaning_enters scope m _ _ _ p) ?_
  intro params
  -- The result comes last, after the parameters that have been resolved before it.
  have hmethod : ∀ returns, Enters lost
      ((given ++ params.flatMap fun p => p.type.references) ++ returns.references)
      (pure ⟨candidate.name, params, returns, candidate.exposure, candidate.method.docs⟩)
      Method.references := by
    intro returns
    apply Enters.pure
    intro r hr
    simp only [Method.references, List.mem_append] at hr ⊢
    rcases hr with hr | hr
    · exact .inl (.inr hr)
    · exact .inr hr
  dsimp only
  split
  · exact Enters.bind (meaning_enters hresolve m _ _ _) hmethod
  · exact Enters.bind (Enters.pure (by simp [defaultResult_references])) hmethod

end ServiceStubs.Resolution
