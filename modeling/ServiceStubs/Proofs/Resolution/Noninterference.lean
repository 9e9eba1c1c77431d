import ServiceStubs.Proofs.Resolution.Closure
import ServiceStubs.Proofs.Resolution.Erasure

/-!
# Methods that clients do not have leave no trace

A class is compared with itself after the methods that clients do not have are deleted from it. Both are
refused with the same error, or both are accepted. Then they agree about every method that clients have,
and what the smaller one declares comes first among the declarations of the full one.

* `OnlyCallable` is the relation between the members of the two classes;
* `candidates_onlyCallable` compares the methods that are taken up;
* `callableMethods_reduced` says that the first phase is the same for both;
* `classService_onlyCallable` compares the services.
-/

namespace ServiceStubs

/-- The service without the methods that clients do not have, and with other declarations. -/
def Service.reduced (s : Service) (declarations : List Declaration) : Service :=
  { s with
    api := { s.api with methods := s.api.exposedMethods }
    declarations := declarations }

namespace Source

/-! ## Methods of a class -/

/-- The function is a method: it is no accessor and not private. -/
def MethodSyntax.isPlain (method : MethodSyntax) : Bool :=
  method.kind = .method && !method.isPrivate

/-- The function is a method that clients have. -/
def MethodSyntax.isCallable (exposure : String → Exposure) (method : MethodSyntax) : Bool :=
  method.isPlain &&
    match method.name with
    | .named name => (exposure name).isCallable
    | _ => false

/-- The methods among the members of a class, in order. -/
def plainMethods (members : List ClassMember) : List MethodSyntax :=
  members.filterMap fun
    | .method method => if method.isPlain then some method else none
    | _ => none

/-- Every method of the class can be called by its name on an object. -/
def ClassSyntax.Regular (c : ClassSyntax) : Prop :=
  ∀ method ∈ plainMethods c.members, (∃ name, method.name = .named name) ∧ method.isStatic = false

/-- The second list of members comes from the first one by deleting the methods that clients do not have.
Accessors and private functions can be deleted or stay. -/
inductive OnlyCallable (exposure : String → Exposure) : List ClassMember → List ClassMember → Prop where
  | nil : OnlyCallable exposure [] []
  | keep {member : ClassMember} {rest rest' : List ClassMember}
      (hkeep : ∀ method, member = .method method → method.isPlain → method.isCallable exposure)
      (hrest : OnlyCallable exposure rest rest') :
      OnlyCallable exposure (member :: rest) (member :: rest')
  | delete {method : MethodSyntax} {rest rest' : List ClassMember}
      (hdelete : ¬method.isCallable exposure) (hrest : OnlyCallable exposure rest rest') :
      OnlyCallable exposure (.method method :: rest) rest'

/-- The second class is the first one without the methods that clients do not have. -/
structure ExportedClass.ReducesTo (exposure : String → String → Exposure) (c c' : ExportedClass) : Prop where
  name : c'.name = c.name
  docs : c'.docs = c.docs
  typeParameters : c'.body.typeParameters = c.body.typeParameters
  members : OnlyCallable (exposure c.name) c.body.members c'.body.members

end Source

namespace Resolution

open Source

/-! ## Candidates -/

/-- The candidate stands for the method. -/
structure StandsFor (exposure : String → Exposure) (method : MethodSyntax) (candidate : Candidate) :
    Prop where
  name : method.name = .named candidate.name
  exposure : candidate.exposure = exposure candidate.name
  method : candidate.method = method

variable {exposure : String → Exposure}

theorem candidates_cons {path className : String} {member : ClassMember} {rest : List ClassMember}
    {found : Option Candidate} {cs : List Candidate}
    (hmember : candidate? path className exposure member = .ok found)
    (hrest : candidates path className exposure rest = .ok cs) :
    candidates path className exposure (member :: rest) = .ok (found.toList ++ cs) := by
  unfold candidates at hrest ⊢
  rw [List.mapM_cons, hmember]
  rcases hall : rest.mapM (candidate? path className exposure) with e | all
  · rw [hall] at hrest
    cases hrest
  · rw [hall] at hrest
    cases hrest
    cases found <;> rfl

/-- What is no method is no candidate. -/
theorem candidate?_of_not_plain (path className : String) {member : ClassMember}
    (h : ∀ method, member = .method method → ¬method.isPlain) :
    candidate? path className exposure member = .ok none := by
  cases member with
  | method method =>
    have hplain : method.kind ≠ .method ∨ method.isPrivate := by
      have hnot := h method rfl
      simp only [MethodSyntax.isPlain, Bool.and_eq_true, decide_eq_true_eq, Bool.not_eq_true'] at hnot
      by_cases hkind : method.kind = .method
      · right
        by_contra hprivate
        exact hnot ⟨hkind, by simpa using hprivate⟩
      · exact .inl hkind
    unfold candidate?
    dsimp only
    rw [if_pos hplain]
  | property p => rfl
  | other => rfl

/-- A method with a name that is not static is a candidate. -/
theorem candidate?_of_plain (path className : String) {method : MethodSyntax} {name : String}
    (hplain : method.isPlain) (hname : method.name = .named name) (hstatic : method.isStatic = false) :
    candidate? path className exposure (.method method) = .ok (some ⟨name, exposure name, method⟩) := by
  have hnot : ¬(method.kind ≠ .method ∨ method.isPrivate) := by
    simp only [MethodSyntax.isPlain, Bool.and_eq_true, decide_eq_true_eq, Bool.not_eq_true'] at hplain
    simp [hplain.1, hplain.2]
  unfold candidate?
  dsimp only
  rw [if_neg hnot, hname]
  simp [hstatic]

theorem plainMethods_cons_of_plain {method : MethodSyntax} {rest : List ClassMember} (h : method.isPlain) :
    plainMethods (.method method :: rest) = method :: plainMethods rest := by
  simp [plainMethods, h]

theorem plainMethods_cons_of_not_plain {member : ClassMember} {rest : List ClassMember}
    (h : ∀ method, member = .method method → ¬method.isPlain) :
    plainMethods (member :: rest) = plainMethods rest := by
  cases member with
  | method method => simp [plainMethods, h method rfl]
  | property p => simp [plainMethods]
  | other => simp [plainMethods]

theorem isPlain_of_mem_plainMethods {members : List ClassMember} {method : MethodSyntax}
    (h : method ∈ plainMethods members) : method.isPlain := by
  obtain ⟨member, -, hmember⟩ := List.mem_filterMap.mp h
  cases member with
  | method method' =>
    dsimp only at hmember
    split at hmember
    · cases hmember
      assumption
    · cases hmember
  | property p => cases hmember
  | other => cases hmember

/-- The candidate that stands for a method, if it has a name. -/
def candidateOf? (exposure : String → Exposure) (method : MethodSyntax) : Option Candidate :=
  match method.name with
  | .named name => some ⟨name, exposure name, method⟩
  | _ => none

/-- The candidates of a regular class are those that its methods have, in order. -/
theorem candidates_regular (path className : String) {members : List ClassMember}
    (h : ∀ method ∈ plainMethods members, (∃ name, method.name = .named name) ∧ method.isStatic = false) :
    candidates path className exposure members =
      .ok ((plainMethods members).filterMap (candidateOf? exposure)) := by
  induction members with
  | nil => rfl
  | cons member rest ih =>
    by_cases hplain : ∃ method, member = .method method ∧ method.isPlain
    · obtain ⟨method, rfl, hplain⟩ := hplain
      rw [plainMethods_cons_of_plain hplain] at h ⊢
      obtain ⟨⟨name, hname⟩, hstatic⟩ := h method List.mem_cons_self
      have hrest := ih fun method' hmethod' => h method' (List.mem_cons_of_mem _ hmethod')
      rw [candidates_cons (candidate?_of_plain path className hplain hname hstatic) hrest]
      simp [candidateOf?, hname]
    · have hnot : ∀ method, member = .method method → ¬method.isPlain :=
        fun method heq hmethod => hplain ⟨method, heq, hmethod⟩
      rw [plainMethods_cons_of_not_plain hnot] at h ⊢
      rw [candidates_cons (candidate?_of_not_plain path className hnot) (ih h)]
      rfl

theorem standsFor_candidateOf {methods : List MethodSyntax}
    (h : ∀ method ∈ methods, ∃ name, method.name = .named name) :
    List.Forall₂ (StandsFor exposure) methods (methods.filterMap (candidateOf? exposure)) := by
  induction methods with
  | nil => exact List.Forall₂.nil
  | cons method rest ih =>
    obtain ⟨name, hname⟩ := h method List.mem_cons_self
    have hfound : candidateOf? exposure method = some ⟨name, exposure name, method⟩ := by
      simp [candidateOf?, hname]
    rw [List.filterMap_cons_some hfound]
    exact List.Forall₂.cons ⟨hname, rfl, rfl⟩ (ih fun method' hm => h method' (List.mem_cons_of_mem _ hm))

/-- Deleting the methods that clients do not have keeps all others. -/
theorem plainMethods_onlyCallable {members members' : List ClassMember}
    (h : OnlyCallable exposure members members') :
    plainMethods members' = (plainMethods members).filter (MethodSyntax.isCallable exposure) := by
  induction h with
  | nil => rfl
  | @keep member rest rest' hkeep _ ih =>
    by_cases hplain : ∃ method, member = .method method ∧ method.isPlain
    · obtain ⟨method, rfl, hplain⟩ := hplain
      rw [plainMethods_cons_of_plain hplain, plainMethods_cons_of_plain hplain,
        List.filter_cons_of_pos (hkeep method rfl hplain), ih]
    · have hnot : ∀ method, member = .method method → ¬method.isPlain :=
        fun method heq hmethod => hplain ⟨method, heq, hmethod⟩
      rw [plainMethods_cons_of_not_plain hnot, plainMethods_cons_of_not_plain hnot, ih]
  | @delete method rest rest' hdelete _ ih =>
    by_cases hplain : method.isPlain
    · rw [plainMethods_cons_of_plain hplain, List.filter_cons_of_neg hdelete, ih]
    · have hnot : ∀ method', ClassMember.method method = .method method' → ¬method'.isPlain := by
        rintro _ ⟨⟩
        exact hplain
      rw [plainMethods_cons_of_not_plain hnot, ih]

/-- A candidate is callable if and only if its method is. -/
theorem filter_candidateOf {methods : List MethodSyntax} (h : ∀ method ∈ methods, method.isPlain) :
    (methods.filter (MethodSyntax.isCallable exposure)).filterMap (candidateOf? exposure) =
      (methods.filterMap (candidateOf? exposure)).filter Candidate.isCallable := by
  rw [List.filterMap_filter, List.filter_filterMap]
  apply List.filterMap_congr
  intro method hmethod
  have hplain := h method hmethod
  rcases hname : method.name with name | _ | _ | _
  · by_cases hcallable : (exposure name).isCallable
    · have hkeep : Candidate.isCallable ⟨name, exposure name, method⟩ := hcallable
      simp [candidateOf?, MethodSyntax.isCallable, Option.filter, hname, hplain, hcallable, hkeep]
    · have hdrop : ¬Candidate.isCallable ⟨name, exposure name, method⟩ := hcallable
      simp [candidateOf?, MethodSyntax.isCallable, Option.filter, hname, hcallable, hdrop]
  all_goals simp [candidateOf?, hname]

/-- Deleting the methods that clients do not have deletes their candidates and no others. -/
theorem candidates_onlyCallable (path className : String) {members members' : List ClassMember}
    (hregular : ∀ method ∈ plainMethods members, (∃ name, method.name = .named name) ∧ method.isStatic = false)
    (h : OnlyCallable exposure members members') :
    candidates path className exposure members' =
      .ok (((plainMethods members).filterMap (candidateOf? exposure)).filter Candidate.isCallable) := by
  have hmethods := plainMethods_onlyCallable h
  have hregular' : ∀ method ∈ plainMethods members',
      (∃ name, method.name = .named name) ∧ method.isStatic = false := by
    intro method hmethod
    rw [hmethods] at hmethod
    exact hregular method (List.mem_filter.mp hmethod).1
  rw [candidates_regular path className hregular', hmethods,
    filter_candidateOf fun method hmethod => isPlain_of_mem_plainMethods hmethod]

/-! ## The two runs -/

variable {library : Library} {m m' : Module} {c c' : ExportedClass}

/-- A signature is resolved in the same way for both classes. -/
theorem signature_reduced (hmodule : m'.withoutMethods = m.withoutMethods) (hname : c'.name = c.name)
    (hgenerics : c'.body.typeParameters = c.body.typeParameters) (lenient : Bool) (candidate : Candidate) :
    signature ⟨library.insert m', lenient⟩ m' c' candidate =
      signature ⟨library.insert m, lenient⟩ m c candidate := by
  have hscope : Scope.withoutMethods ⟨library.insert m', lenient⟩ =
      Scope.withoutMethods ⟨library.insert m, lenient⟩ := by
    unfold Scope.withoutMethods
    rw [Library.insert_withoutMethods, Library.insert_withoutMethods, hmodule]
  calc signature ⟨library.insert m', lenient⟩ m' c' candidate
      = signature (Scope.withoutMethods ⟨library.insert m', lenient⟩) m'.withoutMethods c' candidate :=
        (signature_withoutMethods _ m' rfl rfl candidate).symm
    _ = signature (Scope.withoutMethods ⟨library.insert m, lenient⟩) m.withoutMethods c' candidate := by
        rw [hscope, hmodule]
    _ = signature ⟨library.insert m, lenient⟩ m c candidate :=
        signature_withoutMethods _ m hname hgenerics candidate

/-- The first phase is the same for both classes. -/
theorem callableMethods_reduced (hmodule : m'.withoutMethods = m.withoutMethods) (hname : c'.name = c.name)
    (hgenerics : c'.body.typeParameters = c.body.typeParameters) (cs : List Candidate) :
    callableMethods (library.insert m') m' c' (cs.filter Candidate.isCallable) =
      callableMethods (library.insert m) m c cs := by
  have hsignature : signature ⟨library.insert m', false⟩ m' c' = signature ⟨library.insert m, false⟩ m c :=
    funext fun candidate => signature_reduced hmodule hname hgenerics false candidate
  unfold callableMethods
  rw [hsignature, List.filter_filter]
  simp only [Bool.and_self]

/-- Where clients have all methods, the second phase has nothing to do. -/
theorem others_callable (library : Library) (m : Module) (c : ExportedClass)
    {pairs : List (Candidate × Option Method)} (h : ∀ pair ∈ pairs, pair.2.isSome) (t : Table) :
    others library m c pairs t = (pairs.filterMap Prod.snd, t) := by
  induction pairs with
  | nil => rfl
  | cons pair rest ih =>
    obtain ⟨candidate, resolved⟩ := pair
    cases resolved with
    | none => exact absurd (h _ List.mem_cons_self) (by simp)
    | some method =>
      have hrest := ih fun pair hpair => h pair (List.mem_cons_of_mem _ hpair)
      simp [others, hrest]

/-- The second phase for a class whose methods clients all have. -/
theorem others_reduced (library : Library) (m : Module) (c : ExportedClass) {cs : List Candidate}
    {methods : List Method} (h : List.Forall₂ Candidate.Heads (cs.filter Candidate.isCallable) methods)
    (t : Table) :
    others library m c (assigned (cs.filter Candidate.isCallable) methods) t = (methods, t) := by
  have htwice : (cs.filter Candidate.isCallable).filter Candidate.isCallable =
      cs.filter Candidate.isCallable := by
    rw [List.filter_filter]
    simp only [Bool.and_self]
  -- All candidates are callable, so that `assigned_spec` gives each of them a method.
  rw [← htwice] at h
  obtain ⟨hfst, hsnd, hfits⟩ := assigned_spec h
  have hsome : ∀ pair ∈ assigned (cs.filter Candidate.isCallable) methods, pair.2.isSome := by
    intro pair hpair
    have hcandidate : pair.1 ∈ cs.filter Candidate.isCallable := hfst ▸ List.mem_map_of_mem hpair
    have hcallable : pair.1.isCallable := (List.mem_filter.mp hcandidate).2
    have hfit := hfits pair hpair
    obtain ⟨candidate, resolved⟩ := pair
    cases resolved with
    | none => exact absurd hcallable hfit
    | some method => rfl
  rw [others_callable library m c hsome, hsnd]

/-- What the first phase leaves is closed. -/
theorem closed_of_sound {s : Service} {t : Table} (hsound : t.Sound fun _ => False) (hset : t.Settled)
    (hdeclarations : s.declarations = t.declarations)
    (hrefs : ∀ r ∈ s.api.methods.flatMap Method.references, t.Finds r) : s.Closed := by
  obtain ⟨hdeclares, hmentions⟩ := declares_of_sound hsound hset hdeclarations
  refine ⟨hdeclarations ▸ hsound.distinct_declarations, ?_⟩
  intro r hr
  rcases List.mem_append.mp hr with hr | hr
  · exact hdeclares r (hrefs r hr)
  · obtain ⟨d, hd, hrd⟩ := List.mem_flatMap.mp hr
    exact (hmentions d hd r hrd).resolve_right id

/-- The method of a service is the one that stands in its class. -/
structure Describes (exposure : String → Exposure) (syn : MethodSyntax) (method : Method) : Prop where
  name : syn.name = .named method.name
  exposure : method.exposure = exposure method.name
  docs : method.docs = syn.docs

theorem describes_of_heads {methods : List MethodSyntax} {cs : List Candidate} {result : List Method}
    (hstands : List.Forall₂ (StandsFor exposure) methods cs)
    (hheads : List.Forall₂ Candidate.Heads cs result) :
    List.Forall₂ (Describes exposure) methods result := by
  induction hstands generalizing result with
  | nil =>
    cases hheads
    exact List.Forall₂.nil
  | cons hstand _ ih =>
    cases hheads with
    | cons hhead hrest =>
      refine List.Forall₂.cons ⟨?_, ?_, ?_⟩ (ih hrest)
      · rw [hhead.name, hstand.name]
      · rw [hhead.exposure, hhead.name, hstand.exposure]
      · rw [hhead.docs, hstand.method]

/-- Two classes, the second one without the methods that clients do not have, in modules that agree but for
methods: both are refused with the same error, or the smaller service is the full one without these methods
and with the first of its declarations, among which everything is found that it mentions. The full service
has all methods in order. -/
theorem classService_onlyCallable {exposure : String → String → Exposure} (hregular : c.body.Regular)
    (hmodule : m'.withoutMethods = m.withoutMethods) (hclass : c.ReducesTo exposure c') :
    (∀ e, classService library exposure m c = .error e ↔ classService library exposure m' c' = .error e) ∧
      ∀ s, classService library exposure m c = .ok s →
        List.Forall₂ (Describes (exposure c.name)) (plainMethods c.body.members) s.api.methods ∧
          ∃ first, first <+: s.declarations ∧
            classService library exposure m' c' = .ok (s.reduced first) ∧ (s.reduced first).Closed := by
  have hpath : m'.path = m.path := by simpa using congrArg Module.path hmodule
  have hlanguage : m'.language = m.language := by simpa using congrArg Module.language hmodule
  have hmodulePath : m'.modulePath = m.modulePath := by simpa using congrArg Module.modulePath hmodule
  have hcs : candidates m.path c.name (exposure c.name) c.body.members =
      .ok ((plainMethods c.body.members).filterMap (candidateOf? (exposure c.name))) :=
    candidates_regular m.path c.name hregular
  have hcs' := candidates_onlyCallable m.path c.name hregular hclass.members
  have hstands : List.Forall₂ (StandsFor (exposure c.name)) (plainMethods c.body.members)
      ((plainMethods c.body.members).filterMap (candidateOf? (exposure c.name))) :=
    standsFor_candidateOf fun method hm => (hregular method hm).1
  rw [classService_eq, classService_eq, hpath, hclass.name, hcs, hcs']
  generalize (plainMethods c.body.members).filterMap (candidateOf? (exposure c.name)) = cs at hstands
  dsimp only
  -- The first phase is the same for both classes, and the smaller one has no second phase.
  rw [callableMethods_reduced hmodule hclass.name hclass.typeParameters cs]
  rcases hrun : start (callableMethods (library.insert m) m c cs) [] with ⟨r, t⟩
  cases r with
  | error e => simp
  | ok methods =>
    obtain ⟨hsound, hset, hrefs⟩ := (callableMethods_sound (library.insert m) m c cs fun _ => False).ok hrun
    have hheads := (callableMethods_heads (library.insert m) m c cs []).ok hrun
    obtain ⟨hfst, hsnd, hfits⟩ := assigned_spec hheads
    obtain ⟨hall, hexposed⟩ := others_heads (library.insert m) m c hfits t
    have hpre := (others_sound (library.insert m) m c hfits hsound hset).2.2.1
    dsimp only
    rw [others_reduced (library.insert m') m' c' hheads t, hclass.docs, hlanguage, hmodulePath]
    refine ⟨by simp, ?_⟩
    rintro s ⟨⟩
    rw [hfst] at hall
    refine ⟨describes_of_heads hstands hall, t.declarations, Table.declarations_mono hpre, ?_, ?_⟩
    · dsimp only [Service.reduced, ServiceClass.exposedMethods]
      rw [hexposed, hsnd]
    · refine closed_of_sound hsound hset rfl ?_
      intro r hr
      have hmethods : (others (library.insert m) m c (assigned cs methods) t).1.filter
          (fun method => method.exposure.isCallable) = methods := hexposed.trans hsnd
      dsimp only [Service.reduced, ServiceClass.exposedMethods] at hr
      rw [hmethods] at hr
      exact hrefs r hr

/-! ## A class with a method that clients do not have -/

/-- A method with one parameter of a named type. -/
def taking (name type : String) : MethodSyntax :=
  { kind := .method
    isPrivate := false
    isStatic := false
    isAsync := false
    name := .named name
    typeParameters := []
    parameters := [.plain "value" false (some (.reference type []))]
    returns := none
    docs := none }

/-- A module with two types, the second one made of the first, and a class. -/
def moduleOf (body : ClassSyntax) : Module :=
  { path := "s.ts"
    language := .typeScript
    items := [.definition (.alias ⟨"A", [], .keyword .string⟩) none,
      .definition (.alias ⟨"B", [], .array (.reference "A" [])⟩) none,
      .exported (.classDefinition "S" body) none none] }

/-- A class whose methods `f` and `g` take the two types. -/
def bothMethods : ClassSyntax :=
  ⟨[], [.method (taking "g" "B"), .method (taking "f" "A")]⟩

/-- The class without `g`. -/
def onlyF : ClassSyntax :=
  ⟨[], [.method (taking "f" "A")]⟩

/-- Clients can call all methods but `g`. -/
def gOverHttp : String → String → Exposure :=
  fun _ method => if method = "g" then .http else .rpc

/-- The service of both methods declares the type of `g` after the type of `f`, that of the smaller class
declares the latter only. -/
theorem classService_onlyCallable_f :
    ∃ s s',
      classService (Library.ofFiles []) gOverHttp (moduleOf bothMethods) ⟨"S", bothMethods, none⟩ = .ok s ∧
      classService (Library.ofFiles []) gOverHttp (moduleOf onlyF) ⟨"S", onlyF, none⟩ = .ok s' ∧
      s'.api.methods = s.api.exposedMethods ∧ s'.declarations <+: s.declarations ∧
      s.declarations.map Declaration.key = [⟨"A", "s"⟩, ⟨"B", "s"⟩] ∧
      s'.declarations.map Declaration.key = [⟨"A", "s"⟩] := by
  have hregular : bothMethods.Regular := by
    simp [ClassSyntax.Regular, bothMethods, plainMethods, taking, MethodSyntax.isPlain]
  -- The smaller class comes from the larger one by deleting `g`, which clients cannot call.
  have hclass : ExportedClass.ReducesTo gOverHttp ⟨"S", bothMethods, none⟩ ⟨"S", onlyF, none⟩ := by
    refine ⟨rfl, rfl, rfl, .delete (by decide) (.keep ?_ .nil)⟩
    rintro _ ⟨⟩ _
    decide
  have hrun :
      (classService (Library.ofFiles []) gOverHttp (moduleOf bothMethods) ⟨"S", bothMethods, none⟩).toOption.map
        (fun s => s.declarations.map Declaration.key) = some [⟨"A", "s"⟩, ⟨"B", "s"⟩] := by
    decide +kernel
  have hrun' : (classService (Library.ofFiles []) gOverHttp (moduleOf onlyF) ⟨"S", onlyF, none⟩).toOption.map
      (fun s => s.declarations.map Declaration.key) = some [⟨"A", "s"⟩] := by
    decide +kernel
  have hmodule : (moduleOf onlyF).withoutMethods = (moduleOf bothMethods).withoutMethods := rfl
  obtain ⟨s, hs, hkeys⟩ := toOption_map_eq_some_iff.mp hrun
  obtain ⟨-, first, hpre, hs', -⟩ := (classService_onlyCallable hregular hmodule hclass).2 s hs
  rw [hs'] at hrun'
  exact ⟨s, s.reduced first, hs, hs', rfl, hpre, hkeys, Option.some.inj hrun'⟩

end Resolution

end ServiceStubs
