import ServiceStubs.Resolution.NamedType

/-!
# Signatures

The methods of a class with the types that they mention. Methods that clients have are resolved first, and
nothing in them may be unknown. The others are shown in summaries only: what is unknown there means any
value, and a signature that cannot be resolved at all is replaced by one without types.

Main definitions:

* `candidates` are the methods of a class, with their exposure;
* `classMethods` resolves them.
-/

namespace ServiceStubs.Resolution

open Source

/-! ## Candidates -/

/-- A method of a class with its name and exposure. -/
structure Candidate where
  name : String
  exposure : Exposure
  method : MethodSyntax

/-- The candidate that a member of the class `className` is. Accessors, private methods, fields and
constructors are none; methods that cannot be called by their names are refused. -/
def candidate? (path className : String) (exposure : String → Exposure) :
    ClassMember → Except Error (Option Candidate)
  | .method method =>
    if method.kind ≠ .method ∨ method.isPrivate then .ok none
    else
      match method.name with
      | .named name =>
        if method.isStatic then .error (.unsupportedSyntax path (.staticMethod className name))
        else .ok (some ⟨name, exposure name, method⟩)
      | _ => .error (.unsupportedSyntax path (.computedMethodName className))
  | _ => .ok none

/-- The methods of a class, in order. -/
def candidates (path className : String) (exposure : String → Exposure)
    (members : List ClassMember) : Except Error (List Candidate) := do
  return (← members.mapM (candidate? path className exposure)).filterMap id

/-! ## Signatures -/

section

variable {μ : Type → Type} [Monad μ] [MonadExceptOf Error μ]

/-- A parameter of a method. A default value that is no constant makes it optional all the same. -/
def parameterMeaning (resolve : NameResolver μ) (m : Module) (generics : List String)
    (className methodName : String) : ParameterSyntax → μ Parameter
  | .plain name optional type =>
    return ⟨name, ← meaning? resolve m generics type, optional, none⟩
  | .defaulted name type value =>
    return ⟨name, ← meaning? resolve m generics type, true, constant? value⟩
  | .pattern => throw (.unsupportedSyntax m.path (.patternParameter className methodName))

/-- What a method without a type for its result gives. -/
def defaultResult (isAsync : Bool) : DataType :=
  if isAsync then .promise .any else .any

/-- A method with the types of its signature, given a resolver of names. -/
def signatureWith (resolve : NameResolver μ) (m : Module) (c : ExportedClass) (candidate : Candidate) :
    μ Method := do
  let generics := c.body.typeParameters ++ candidate.method.typeParameters
  let params ← candidate.method.parameters.mapM
    (parameterMeaning resolve m generics c.name candidate.name)
  let returns ← match candidate.method.returns with
    | some type => meaning resolve m generics type
    | none => pure (defaultResult candidate.method.isAsync)
  return ⟨candidate.name, params, returns, candidate.exposure, candidate.method.docs⟩

/-- The name of the parameter at an index, or one made from the index. -/
def parameterName (index : Nat) : ParameterSyntax → String
  | .plain name _ _ => name
  | .defaulted name _ _ => name
  | .pattern => "arg" ++ toString index

/-- A method in whose signature everything means any value. -/
def untyped (candidate : Candidate) : Method :=
  let params := candidate.method.parameters.mapIdx fun index p =>
    ({ name := parameterName index p, type := .any, optional := false, defaultValue := none } : Parameter)
  ⟨candidate.name, params, defaultResult candidate.method.isAsync, candidate.exposure,
    candidate.method.docs⟩

/-- A method with the types of its signature, or without any if they cannot be resolved. `giveUp` is done
in this case. -/
def lenientSignatureWith (resolve : NameResolver μ) (giveUp : μ Unit) (m : Module) (c : ExportedClass)
    (candidate : Candidate) : μ Method :=
  tryCatch (signatureWith resolve m c candidate) fun _ => do
    giveUp
    return untyped candidate

/-- The methods of a class with their types, in the order of the class. Names in those that clients have are
resolved by `strict`, those in the others by `lenient`. -/
def classMethodsWith (strict lenient : NameResolver μ) (giveUp : μ Unit) (m : Module) (c : ExportedClass)
    (candidates : List Candidate) : μ (List Method) := do
  let callable ← candidates.mapM fun candidate =>
    if candidate.exposure.isCallable then some <$> signatureWith strict m c candidate
    else pure none
  (candidates.zip callable).mapM fun (candidate, resolved) =>
    match resolved with
    | some method => pure method
    | none => lenientSignatureWith lenient giveUp m c candidate

end

/-- A method with the types of its signature. -/
def signature (scope : Scope) : Module → ExportedClass → Candidate → Resolve Method :=
  signatureWith scope.resolve

/-- A method with the types of its signature, or without any if they cannot be resolved. -/
def lenientSignature (library : Library) : Module → ExportedClass → Candidate → Resolve Method :=
  lenientSignatureWith (Scope.resolve ⟨library, true⟩) (modify Table.dropUnfinished)

/-- The methods of a class with their types, in the order of the class. -/
def classMethods (library : Library) : Module → ExportedClass → List Candidate → Resolve (List Method) :=
  classMethodsWith (Scope.resolve ⟨library, false⟩) (Scope.resolve ⟨library, true⟩)
    (modify Table.dropUnfinished)

end ServiceStubs.Resolution
