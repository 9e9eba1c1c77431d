import ServiceStubs.Proofs.InPlace
import ServiceStubs.Proofs.Plan.DistinctNames

/-!
# What renaming changes

Telling declarations apart is a matter of names alone. Where a name that several modules declare stands for a declared
key, in front of a declaration or in a reference, it gets the path of the module in front; every other name stays, and
so does all the rest.

* `Service.RenamedTo` says what becomes of a service, part by part;
* `Service.renamedTo_renamed` says that a service is renamed so, whatever else is declared;
* `Service.PointsAtDeclared.renamed` says that declarations and references get their new names together;
* `disambiguate_renamedTo` concludes for a whole batch.
-/

namespace ServiceStubs

/-! ## Names before and after -/

/-- What a key is called when all of `declared` are in play. -/
structure IsNewName (declared : List DeclKey) (key : DeclKey) (name : String) : Prop where
  clashing : Clashes declared key → name = key.qualified
  other : ¬Clashes declared key → name = key.name

theorem isNewName_distinctName (declared : List DeclKey) (key : DeclKey) :
    IsNewName declared key (distinctName declared key) :=
  ⟨distinctName_of_clashes, distinctName_of_not_clashes⟩

/-- A reference before and after: only its name may change. -/
structure TypeRef.RenamedTo (declared : List DeclKey) (r r' : TypeRef) : Prop where
  name : IsNewName declared r.key r'.name
  modulePath : r'.modulePath = r.modulePath
  kind : r'.kind = r.kind

/-- A declaration before and after: only its name and the references in its body may change. -/
structure Declaration.RenamedTo (declared : List DeclKey) (d d' : Declaration) : Prop where
  name : IsNewName declared d.key d'.name
  rest : d.SameUpTo (TypeRef.RenamedTo declared) d'

/-- A service before and after: only the names of declarations, and the references in signatures and bodies, may
change. -/
structure Service.RenamedTo (declared : List DeclKey) (s s' : Service) : Prop where
  language : s'.language = s.language
  modulePath : s'.modulePath = s.modulePath
  className : s'.api.name = s.api.name
  classDocs : s'.api.docs = s.api.docs
  methods : List.Forall₂ (Method.SameUpTo (TypeRef.RenamedTo declared)) s.api.methods s'.api.methods
  declarations : List.Forall₂ (Declaration.RenamedTo declared) s.declarations s'.declarations

theorem TypeRef.renamedTo_renamed (declared : List DeclKey) (r : TypeRef) :
    r.RenamedTo declared (r.renamed declared) :=
  ⟨isNewName_distinctName declared r.key, rfl, rfl⟩

theorem Declaration.renamedTo_renamed (declared : List DeclKey) (d : Declaration) :
    d.RenamedTo declared (d.renamed declared) := by
  have hsame : d.SameUpTo (TypeRef.RenamedTo declared) (d.mapReferences (TypeRef.renamed declared)) :=
    d.sameUpTo_mapReferences fun r _ => r.renamedTo_renamed declared
  exact ⟨isNewName_distinctName declared d.key, hsame.modulePath, hsame.body, hsame.docs⟩

theorem Service.renamedTo_renamed (declared : List DeclKey) (s : Service) :
    s.RenamedTo declared (s.renamed declared) := by
  refine ⟨rfl, rfl, rfl, rfl, forall₂_map_self fun m _ => ?_, forall₂_map_self fun d _ => ?_⟩
  · exact m.sameUpTo_mapReferences fun r _ => r.renamedTo_renamed declared
  · exact d.renamedTo_renamed declared

/-! ## References and their declarations -/

/-- The key of every reference in the service is the key of one of its declarations. -/
def Service.PointsAtDeclared (s : Service) : Prop :=
  ∀ r ∈ s.references, ∃ d ∈ s.declarations, d.key = r.key

/-- A reference and a declaration that have one key have one key afterwards, since it decides about the new name. -/
theorem Service.PointsAtDeclared.renamed {s : Service} (h : s.PointsAtDeclared) (declared : List DeclKey) :
    (s.renamed declared).PointsAtDeclared := by
  unfold Service.PointsAtDeclared
  rw [references_renamed]
  intro r' hr'
  obtain ⟨r, hr, rfl⟩ := List.mem_map.mp hr'
  obtain ⟨d, hd, hkey⟩ := h r hr
  refine ⟨d.renamed declared, List.mem_map_of_mem hd, ?_⟩
  have hpath : d.modulePath = r.modulePath := congrArg DeclKey.modulePath hkey
  rw [Declaration.renamed_key, TypeRef.renamed_key, hkey, hpath]

/-! ## Batches -/

/-- No name is declared by two modules. -/
def NamesApart (services : List Service) : Prop :=
  ∀ k ∈ declaredKeys services, ∀ k' ∈ declaredKeys services, k.name = k'.name → k.modulePath = k'.modulePath

theorem NamesApart.not_clashes {services : List Service} (h : NamesApart services) (key : DeclKey) :
    ¬Clashes (declaredKeys services) key := by
  rintro ⟨hkey, k, hk, hname, hpath⟩
  exact hpath (h k hk key hkey hname)

/-- A batch in which no name is declared by two modules stays as it is. In every batch, each service is renamed in its
place and nothing else about it changes; and if all of its references had their declarations, they have them still. -/
theorem disambiguate_renamedTo (services : List Service) :
    (NamesApart services → disambiguate services = services) ∧
      List.Forall₂ (fun s s' => s.RenamedTo (declaredKeys services) s' ∧ (s.PointsAtDeclared → s'.PointsAtDeclared))
        services (disambiguate services) := by
  constructor
  · intro h
    exact disambiguate_eq_self h.not_clashes
  · exact forall₂_map_self fun s _ => ⟨s.renamedTo_renamed _, fun h => h.renamed _⟩

/-- Two of the three users have one name. They become `AUser` and `BUser`, each in its declaration and in the reference
to it, and the third one stays. All references have their declarations, before and after. -/
theorem disambiguate_renamedTo_threeUsers :
    Clashes (declaredKeys [threeUsers]) ⟨"User", "a"⟩ ∧ threeUsers.PointsAtDeclared ∧
      ∀ s' ∈ disambiguate [threeUsers], threeUsers.RenamedTo (declaredKeys [threeUsers]) s' ∧ s'.PointsAtDeclared ∧
        s'.declarations.map (·.name) = ["AUser", "BUser", "AUser"] ∧
        s'.references.map (·.name) = ["AUser", "BUser", "AUser"] := by
  have hclashes : Clashes (declaredKeys [threeUsers]) ⟨"User", "a"⟩ := by
    unfold Clashes
    decide
  have hpoints : threeUsers.PointsAtDeclared := by
    simp [Service.PointsAtDeclared, threeUsers, Service.references, Method.references, DataType.references,
      Declaration.references, Declaration.key, TypeRef.key]
  refine ⟨hclashes, hpoints, fun s' hs' => ?_⟩
  obtain ⟨-, hrenamed⟩ := disambiguate_renamedTo [threeUsers]
  obtain rfl := List.mem_singleton.mp hs'
  obtain ⟨⟨hrenamed, hkeeps⟩, -⟩ := List.forall₂_cons.mp hrenamed
  refine ⟨hrenamed, hkeeps hpoints, ?_, ?_⟩
  · decide +kernel
  · rw [references_renamed]
    decide +kernel

end ServiceStubs
