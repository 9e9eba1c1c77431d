import ServiceStubs.Plan.Disambiguate
import ServiceStubs.Proofs.Plan.Reachability
import ServiceStubs.Proofs.References
import ServiceStubs.Proofs.Resolution.Closure
import ServiceStubs.Proofs.Text.Words

/-!
# Names that several modules declare

A declaration whose name another module declares too gets the path of its module in front, and references
follow their declarations. The new names are those of the batch as it was: nothing is done where a new name
meets another one, be it new itself or one that has stayed.

* `distinctName_eq_iff` says when two keys end up with one name;
* `references_renamed` says that every reference is renamed in its place;
* `disambiguate_eq_self` says that nothing is renamed where there is no need to;
* `disambiguate_distinct_iff` says exactly when all names are distinct and when references still tell the
  declarations of their service apart;
* `disambiguate_not_distinct` is a batch where neither is the case.
-/

namespace ServiceStubs

/-! ## Clashing keys -/

/-- A key is declared, and another module declares its name too. -/
def Clashes (declared : List DeclKey) (key : DeclKey) : Prop :=
  key ∈ declared ∧ ∃ k ∈ declared, k.name = key.name ∧ k.modulePath ≠ key.modulePath

/-- The name of a key behind the path of its module, which is spelled in upper camel case. -/
def DeclKey.qualified (key : DeclKey) : String :=
  Text.upperCamel key.modulePath ++ key.name

/-- That the separators of a path are read as underscores makes no difference: words end at both of them. -/
theorem qualifier_eq (modulePath : String) : qualifier modulePath = Text.upperCamel modulePath := by
  apply Text.upperCamel_map
  · intro c hc
    refine if_neg ?_
    rintro rfl
    exact absurd hc (by decide)
  · intro c hc
    split
    · decide
    · exact hc

example : qualifier "src/a" = "SrcA" := by
  decide +kernel

theorem isClashing_iff {declared : List DeclKey} {key : DeclKey} :
    isClashing declared key = true ↔ Clashes declared key := by
  unfold isClashing Clashes
  simp

theorem distinctName_of_clashes {declared : List DeclKey} {key : DeclKey} (h : Clashes declared key) :
    distinctName declared key = key.qualified := by
  unfold distinctName DeclKey.qualified
  rw [if_pos (isClashing_iff.mpr h), qualifier_eq]

theorem distinctName_of_not_clashes {declared : List DeclKey} {key : DeclKey} (h : ¬Clashes declared key) :
    distinctName declared key = key.name := by
  unfold distinctName
  rw [if_neg (fun hclashing => h (isClashing_iff.mp hclashing))]

/-- Of two keys with one name both clash. -/
theorem clashes_of_name_eq {declared : List DeclKey} {k k' : DeclKey} (hk : k ∈ declared)
    (hk' : k' ∈ declared) (hname : k.name = k'.name) (hne : k ≠ k') : Clashes declared k := by
  refine ⟨hk, k', hk', hname.symm, ?_⟩
  intro hpath
  exact hne (by cases k; cases k'; simp_all)

theorem not_clashes_singleton (k key : DeclKey) : ¬Clashes [k] key := by
  rintro ⟨hkey, k', hk', -, hne⟩
  rw [List.mem_singleton] at hkey hk'
  exact hne (by rw [hk', hkey])

/-! ## Names that meet -/

/-- The new name of a key is also that of another one, which either is new too or has stayed. -/
def Meets (declared : List DeclKey) (key other : DeclKey) : Prop :=
  Clashes declared key ∧
    ((Clashes declared other ∧ key.qualified = other.qualified) ∨
      (¬Clashes declared other ∧ key.qualified = other.name))

/-- The new name of one of two keys meets the name of the other. -/
def Collide (declared : List DeclKey) (key other : DeclKey) : Prop :=
  Meets declared key other ∨ Meets declared other key

/-- Two keys end up with one name if and only if a new name meets another name: names that stay are
distinct. -/
theorem distinctName_eq_iff {declared : List DeclKey} {k k' : DeclKey} (hk : k ∈ declared)
    (hk' : k' ∈ declared) (hne : k ≠ k') :
    distinctName declared k = distinctName declared k' ↔ Collide declared k k' := by
  unfold Collide Meets
  by_cases hc : Clashes declared k
  · by_cases hc' : Clashes declared k'
    · rw [distinctName_of_clashes hc, distinctName_of_clashes hc']
      simp only [hc, hc', true_and, not_true, false_and, or_false]
      exact ⟨Or.inl, fun h => h.elim id Eq.symm⟩
    · rw [distinctName_of_clashes hc, distinctName_of_not_clashes hc']
      simp [hc, hc']
  · by_cases hc' : Clashes declared k'
    · rw [distinctName_of_not_clashes hc, distinctName_of_clashes hc']
      simp only [hc, hc', false_and, true_and, false_or, not_false_eq_true]
      exact eq_comm
    · rw [distinctName_of_not_clashes hc, distinctName_of_not_clashes hc']
      simp only [hc, hc', false_and, or_self, iff_false]
      intro hname
      exact hc (clashes_of_name_eq hk hk' hname hne)

/-! ## Services with new names -/

@[simp] theorem Declaration.mapReferences_modulePath (f : TypeRef → TypeRef) (d : Declaration) :
    (d.mapReferences f).modulePath = d.modulePath := by
  obtain ⟨name, modulePath, body, docs⟩ := d
  cases body <;> rfl

theorem Declaration.renamed_key (declared : List DeclKey) (d : Declaration) :
    (d.renamed declared).key = ⟨distinctName declared d.key, d.modulePath⟩ := by
  unfold Declaration.renamed Declaration.key
  simp

theorem TypeRef.renamed_key (declared : List DeclKey) (r : TypeRef) :
    (r.renamed declared).key = ⟨distinctName declared r.key, r.modulePath⟩ := rfl

theorem Declaration.references_renamed (declared : List DeclKey) (d : Declaration) :
    (d.renamed declared).references = d.references.map (TypeRef.renamed declared) :=
  Declaration.references_mapReferences (TypeRef.renamed declared) d

/-- Every reference of a service is renamed in its place. -/
theorem references_renamed (declared : List DeclKey) (s : Service) :
    (s.renamed declared).references = s.references.map (TypeRef.renamed declared) := by
  have hmethods := flatMap_map_references (TypeRef.renamed declared) Method.references
    (Method.mapReferences (TypeRef.renamed declared)) fun m (_ : m ∈ s.api.methods) =>
      Method.references_mapReferences _ m
  have hdeclarations := flatMap_map_references (TypeRef.renamed declared) Declaration.references
    (Declaration.renamed declared) fun d (_ : d ∈ s.declarations) =>
      Declaration.references_renamed declared d
  unfold Service.references Service.renamed
  rw [hmethods, hdeclarations, List.map_append]

/-- The declarations of a batch are renamed in their places. -/
theorem allDeclarations_disambiguate (services : List Service) :
    allDeclarations (disambiguate services) =
      (allDeclarations services).map (Declaration.renamed (declaredKeys services)) := by
  unfold allDeclarations disambiguate
  rw [List.flatMap_map, List.map_flatMap]
  rfl

theorem mem_declaredKeys_iff {services : List Service} {key : DeclKey} :
    key ∈ declaredKeys services ↔ ∃ d ∈ allDeclarations services, d.key = key := by
  unfold declaredKeys allDeclarations
  simp only [List.mem_flatMap, List.mem_map]
  constructor
  · rintro ⟨s, hs, d, hd, rfl⟩
    exact ⟨d, ⟨s, hs, hd⟩, rfl⟩
  · rintro ⟨d, ⟨s, hs, hd⟩, rfl⟩
    exact ⟨s, hs, d, hd, rfl⟩

/-- Where no module declares a name of another one, everything stays as it is. -/
theorem disambiguate_eq_self {services : List Service} (h : ∀ key, ¬Clashes (declaredKeys services) key) :
    disambiguate services = services := by
  have hid : TypeRef.renamed (declaredKeys services) = id := by
    funext r
    unfold TypeRef.renamed
    rw [distinctName_of_not_clashes (h r.key)]
    rfl
  refine map_eq_self fun s _ => ?_
  have hmethods : s.api.methods.map (Method.mapReferences id) = s.api.methods :=
    map_eq_self fun m _ => Method.mapReferences_id m
  have hdeclarations : s.declarations.map (Declaration.renamed (declaredKeys services)) = s.declarations := by
    refine map_eq_self fun d _ => ?_
    unfold Declaration.renamed
    rw [distinctName_of_not_clashes (h d.key), hid, Declaration.mapReferences_id]
    rfl
  unfold Service.renamed
  rw [hdeclarations, hid, hmethods]

/-- Declarations with different keys have different names afterwards. -/
def NamedApart (services : List Service) : Prop :=
  ∀ d ∈ allDeclarations services, ∀ d' ∈ allDeclarations services, d.key ≠ d'.key →
    (d.renamed (declaredKeys services)).name ≠ (d'.renamed (declaredKeys services)).name

/-- A reference that points at a declaration of its service points at the same declaration afterwards, and
at no other one of the service. -/
def ReferencesFollow (services : List Service) : Prop :=
  ∀ s ∈ services, ∀ r ∈ s.references, ∀ d ∈ s.declarations, d.key = r.key → ∀ d' ∈ s.declarations,
    (d'.renamed (declaredKeys services)).key = (r.renamed (declaredKeys services)).key ↔ d'.key = d.key

/-- Every batch of services. Declarations and references are renamed in their places. All names are distinct
if and only if no new name meets another name; and references still tell the declarations of their service
apart if and only if this is so for the key of a reference and the other keys of its module. -/
theorem disambiguate_distinct_iff (services : List Service) :
    allDeclarations (disambiguate services) =
        (allDeclarations services).map (Declaration.renamed (declaredKeys services)) ∧
      (disambiguate services).map Service.references =
        services.map (fun s => s.references.map (TypeRef.renamed (declaredKeys services))) ∧
      (NamedApart services ↔ ∀ k ∈ declaredKeys services, ∀ k' ∈ declaredKeys services, k ≠ k' →
        ¬Collide (declaredKeys services) k k') ∧
      (ReferencesFollow services ↔ ∀ s ∈ services, ∀ r ∈ s.references,
        r.key ∈ s.declarations.map Declaration.key → ∀ k ∈ s.declarations.map Declaration.key,
          k ≠ r.key → k.modulePath = r.modulePath → ¬Collide (declaredKeys services) k r.key) := by
  refine ⟨allDeclarations_disambiguate services, ?_, ?_, ?_⟩
  · unfold disambiguate
    rw [List.map_map]
    exact List.map_congr_left fun s _ => references_renamed _ s
  · constructor
    · intro hapart k hk k' hk' hne hcollide
      obtain ⟨d, hd, rfl⟩ := mem_declaredKeys_iff.mp hk
      obtain ⟨d', hd', rfl⟩ := mem_declaredKeys_iff.mp hk'
      exact hapart d hd d' hd' hne ((distinctName_eq_iff hk hk' hne).mpr hcollide)
    · intro hnone d hd d' hd' hne hname
      have hk := mem_declaredKeys_iff.mpr ⟨d, hd, rfl⟩
      have hk' := mem_declaredKeys_iff.mpr ⟨d', hd', rfl⟩
      exact hnone _ hk _ hk' hne ((distinctName_eq_iff hk hk' hne).mp hname)
  · have hdeclared : ∀ s ∈ services, ∀ d ∈ s.declarations, d.key ∈ declaredKeys services :=
      fun s hs d hd => mem_declaredKeys_iff.mpr ⟨d, List.mem_flatMap.mpr ⟨s, hs, hd⟩, rfl⟩
    -- New keys are compared in both parts; the module stays what it is.
    have hkeys : ∀ (d : Declaration) (r : TypeRef),
        (d.renamed (declaredKeys services)).key = (r.renamed (declaredKeys services)).key ↔
          distinctName (declaredKeys services) d.key = distinctName (declaredKeys services) r.key ∧
            d.modulePath = r.modulePath := by
      intro d r
      rw [Declaration.renamed_key, TypeRef.renamed_key, DeclKey.mk.injEq]
    constructor
    · intro hfollow s hs r hr hkey k hk hne hpath hcollide
      obtain ⟨d, hd, hdr⟩ := List.mem_map.mp hkey
      obtain ⟨d', hd', rfl⟩ := List.mem_map.mp hk
      have hrdeclared : r.key ∈ declaredKeys services := hdr ▸ hdeclared s hs d hd
      have hname := (distinctName_eq_iff (hdeclared s hs d' hd') hrdeclared hne).mpr hcollide
      exact hne (((hfollow s hs r hr d hd hdr d' hd').mp ((hkeys d' r).mpr ⟨hname, hpath⟩)).trans hdr)
    · intro hnone s hs r hr d hd hdr d' hd'
      rw [hkeys, hdr]
      constructor
      · rintro ⟨hname, hpath⟩
        by_contra hne
        have hrdeclared : r.key ∈ declaredKeys services := hdr ▸ hdeclared s hs d hd
        have hcollide := (distinctName_eq_iff (hdeclared s hs d' hd') hrdeclared hne).mp hname
        exact hnone s hs r hr (List.mem_map.mpr ⟨d, hd, hdr⟩) _ (List.mem_map.mpr ⟨d', hd', rfl⟩) hne hpath
          hcollide
      · intro heq
        exact ⟨by rw [heq], congrArg DeclKey.modulePath heq⟩

/-! ## Names that meet after all -/

/-- A service whose methods take a `User` of two modules each, and an `AUser` of the module `a`. -/
def threeUsers : Service :=
  { language := .typeScript
    modulePath := "s"
    api :=
      { name := "S"
        methods :=
          [⟨"f", [⟨"x", .named ⟨"User", "a", .record⟩, false, none⟩,
              ⟨"y", .named ⟨"User", "b", .record⟩, false, none⟩,
              ⟨"z", .named ⟨"AUser", "a", .record⟩, false, none⟩], .void, .rpc, none⟩]
        docs := none }
    declarations :=
      [⟨"User", "a", .record [⟨"one", false, .string⟩], none⟩,
        ⟨"User", "b", .record [⟨"two", false, .string⟩], none⟩,
        ⟨"AUser", "a", .record [⟨"three", false, .string⟩], none⟩] }

/-- The `User` of the module `a` becomes an `AUser` of this module, which is there already: two declarations
of one name, and a reference that points at both. -/
theorem disambiguate_not_distinct : ¬NamedApart [threeUsers] ∧ ¬ReferencesFollow [threeUsers] := by
  let user : Declaration := ⟨"User", "a", .record [⟨"one", false, .string⟩], none⟩
  let other : Declaration := ⟨"AUser", "a", .record [⟨"three", false, .string⟩], none⟩
  have huser : user ∈ threeUsers.declarations := .head _
  have hother : other ∈ threeUsers.declarations := .tail _ (.tail _ (.head _))
  have hne : other.key ≠ user.key := by decide
  have hname : distinctName (declaredKeys [threeUsers]) other.key =
      distinctName (declaredKeys [threeUsers]) user.key := by
    decide +kernel
  refine ⟨?_, ?_⟩
  · intro hapart
    have hall : ∀ d ∈ threeUsers.declarations, d ∈ allDeclarations [threeUsers] := by
      simp [allDeclarations]
    exact hapart other (hall _ hother) user (hall _ huser) hne hname
  · -- The first `User` is renamed to what the third record is called, and the reference to it points at both.
    intro hfollow
    let r : TypeRef := ⟨"User", "a", .record⟩
    have hr : r ∈ threeUsers.references := by
      simp [r, threeUsers, Service.references, Method.references, DataType.references]
    have hkeys : (other.renamed (declaredKeys [threeUsers])).key =
        (r.renamed (declaredKeys [threeUsers])).key := by
      rw [Declaration.renamed_key, TypeRef.renamed_key, hname]
      rfl
    exact hne ((hfollow threeUsers (by simp) r hr user huser rfl other hother).mp hkeys)

end ServiceStubs
