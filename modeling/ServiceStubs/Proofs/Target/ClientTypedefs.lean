import ServiceStubs.Proofs.Plan.OneService
import ServiceStubs.Proofs.Target.Rendering

/-!
# The typedefs of a client

A JavaScript client holds a typedef block for every declaration that its service leads to, and no other blocks. They
stand behind the import of the runtime and in front of the class, in the order in which the search finds them.

* `IsTypedef` is the form of a block;
* `declarationText_isOk_iff` says for which declarations there is one;
* `clientText_eq_map` says where the blocks stand;
* `Documents` says what the blocks of a client are about;
* `clientText_documents` concludes for closed services, and says when the search has ended.
-/

namespace ServiceStubs.JavaScript

/-! ## Blocks -/

/-- A block comment with a typedef of a name in it, between a description and tags for properties. -/
def IsTypedef (name block : String) : Prop :=
  ∃ description type properties, block =
    "/**\n" ++ description ++ (" * @typedef " ++ bracedType type ++ " " ++ name ++ "\n" ++ properties) ++ " */"

theorem isTypedef_line (description type name : String) :
    IsTypedef name ("/**\n" ++ description ++ (" * @typedef " ++ bracedType type ++ " " ++ name ++ "\n") ++ " */") :=
  ⟨description, type, "", by rw [String.append_empty]⟩

/-- The block for a declaration is a typedef of its name. -/
theorem declarationText_isTypedef {d : Declaration} {block : String} (h : declarationText d = .ok block) :
    IsTypedef d.name block := by
  obtain ⟨name, modulePath, body, docs⟩ := d
  cases body with
  | record fields =>
    cases h
    exact ⟨_, "Object", _, rfl⟩
  | enumeration cases =>
    obtain ⟨definition, hdefinition, hblock⟩ := bind_eq_ok_iff.mp h
    obtain ⟨kind, -, rfl⟩ := map_eq_ok_iff.mp hdefinition
    cases hblock
    exact isTypedef_line _ _ name
  | «alias» type =>
    cases h
    exact isTypedef_line _ _ name

/-- There is a block for every declaration but mixed enums. -/
theorem declarationText_isOk_iff (d : Declaration) : (∃ block, declarationText d = .ok block) ↔ ¬d.IsMixed := by
  constructor
  · rintro ⟨block, hblock⟩ hmixed
    rcases enumValueKind_cases d with ⟨hnot, -⟩ | ⟨-, herror⟩
    · exact hnot hmixed
    · obtain ⟨cases, hbody, -⟩ := hmixed
      unfold declarationText at hblock
      rw [hbody] at hblock
      obtain ⟨definition, hdefinition, -⟩ := bind_eq_ok_iff.mp hblock
      obtain ⟨kind, hkind, -⟩ := map_eq_ok_iff.mp hdefinition
      rw [herror] at hkind
      cases hkind
  · exact declarationText_isOk .javaScript

/-! ## Clients -/

/-- The lines above the blocks, in the file at a path. -/
def openingLines (path : String) : List String :=
  TypeScript.banner ++ ["", "import \x7b Remote \x7d from \"" ++ relativePath path "remote.js" ++ "\";", ""]

/-- The lines of the class, and all that is behind it. -/
def classLines (c : ServiceClass) : List String :=
  docLines c.docs .block "" ++
    ["export class " ++ c.name ++ " \x7b",
      "  static remote = new Remote(\"" ++ remoteUrlPlaceholder ++ "\");",
      ""] ++
    [""].intercalate (c.exposedMethods.map (methodLines c.name)) ++
    ["\x7d", "", "export \x7b Remote \x7d;"]

/-- A client is its blocks, each with an empty line behind it, between an opening and a class. -/
theorem clientText_eq_map (s : Service) (file : FilePlan) (m : Metadata) :
    clientText s file m = (s.reachableDeclarations.mapM declarationText).map fun blocks =>
      unlines (openingLines file.path ++ blocks.flatMap (fun block => [block, ""]) ++ classLines s.api) := by
  unfold clientText openingLines classLines
  cases s.reachableDeclarations.mapM declarationText with
  | error e => rfl
  | ok blocks =>
    simp only [bind, Except.bind, pure, Except.pure, Except.map, List.append_assoc]

/-- There is a client unless its service leads to a mixed enum. -/
theorem clientText_isOk_iff (s : Service) (file : FilePlan) (m : Metadata) :
    (∃ text, clientText s file m = .ok text) ↔ ∀ d ∈ s.reachableDeclarations, ¬d.IsMixed := by
  rw [clientText_eq_map]
  constructor
  · rintro ⟨text, htext⟩ d hd
    obtain ⟨blocks, hblocks, -⟩ := map_eq_ok_iff.mp htext
    obtain ⟨hlength, hall⟩ := List.forall₂_iff_get.mp (forall₂_of_mapM_eq_ok hblocks)
    obtain ⟨i, hi, rfl⟩ := List.getElem_of_mem hd
    exact (declarationText_isOk_iff _).mp ⟨_, hall i hi (hlength ▸ hi)⟩
  · intro hnone
    obtain ⟨blocks, hblocks⟩ := mapM_eq_ok fun d hd => (declarationText_isOk_iff d).mpr (hnone d hd)
    exact ⟨_, map_eq_ok_iff.mpr ⟨blocks, hblocks, rfl⟩⟩

/-! ## What the blocks are about -/

/-- The blocks are typedefs of the declarations that a service leads to, one for each, and whatever an exposed
signature or one of these declarations mentions is one of them. -/
structure Documents (s : Service) (declarations : List Declaration) (blocks : List String) : Prop where
  typedefs : List.Forall₂ (fun d block => declarationText d = .ok block ∧ IsTypedef d.name block) declarations blocks
  distinct : (declarations.map Declaration.key).Nodup
  reached : ∀ d, d ∈ declarations ↔ d ∈ s.declarations ∧ Reaches [s] d.key
  named : ∀ r, (r ∈ s.exposedReferences ∨ ∃ d ∈ declarations, r ∈ d.references) →
    ∃ d ∈ declarations, d.key = r.key ∧ d.body.kind = r.kind ∧ ∀ d' ∈ declarations, d'.key = r.key → d' = d

/-- How many turns the search takes for one service at most. -/
theorem turnsLeft_exposed (s : Service) :
    turnsLeft s.declarations.reverse ⟨[], s.exposedReferences.map TypeRef.key⟩ =
      s.exposedReferences.length + (s.declarations.flatMap Declaration.references).length := by
  have hall : unseen s.declarations.reverse [] = s.declarations.reverse := List.filter_eq_self.mpr (by simp)
  have hperm := (List.reverse_perm s.declarations).flatMap_right Declaration.references
  unfold turnsLeft
  rw [hall, hperm.length_eq, List.length_map]

/-- For a closed service, whatever its declarations mention in circles, the search ends; there is a client unless a
mixed enum is reached; and the blocks of the client document what is reached. -/
theorem clientText_documents {s : Service} (hclosed : s.Closed) (file : FilePlan) (m : Metadata) :
    (∀ n, s.exposedReferences.length + (s.declarations.flatMap Declaration.references).length ≤ n →
      (searchTurn s.declarations.reverse)^[n] ⟨[], s.exposedReferences.map TypeRef.key⟩ =
        ⟨reachableKeys s.declarations.reverse [s], []⟩) ∧
    ((∃ text, clientText s file m = .ok text) ↔ ∀ d ∈ s.declarations, Reaches [s] d.key → ¬d.IsMixed) ∧
    ∀ text, clientText s file m = .ok text → ∃ declarations blocks, Documents s declarations blocks ∧
      text = unlines (openingLines file.path ++ blocks.flatMap (fun block => [block, ""]) ++ classLines s.api) := by
  have hreached := mem_reachableDeclarations_iff hclosed.distinct
  refine ⟨?_, ?_, ?_⟩
  · intro n hn
    have hqueue : ([s].flatMap fun s => s.exposedReferences.map TypeRef.key) =
        s.exposedReferences.map TypeRef.key := List.append_nil _
    -- At the beginning the exposed references wait, and no declaration has been opened.
    rw [searchTurn_iterate (turnsLeft_exposed s ▸ hn)]
    unfold reachableKeys
    rw [hqueue]
  · rw [clientText_isOk_iff]
    constructor
    · intro hnone d hd hreach
      exact hnone d ((hreached d).mpr ⟨hd, hreach⟩)
    · intro hnone d hd
      obtain ⟨hd, hreach⟩ := (hreached d).mp hd
      exact hnone d hd hreach
  · intro text htext
    rw [clientText_eq_map] at htext
    obtain ⟨blocks, hblocks, rfl⟩ := map_eq_ok_iff.mp htext
    refine ⟨s.reachableDeclarations, blocks, ?_, rfl⟩
    refine ⟨?_, nodup_reachableDeclarations s, hreached, fun r hr => hclosed.named_once hr⟩
    exact (forall₂_of_mapM_eq_ok hblocks).imp fun d block hblock => ⟨hblock, declarationText_isTypedef hblock⟩

/-- Of two records that refer to each other a client holds both, though its method gives only one. -/
theorem clientText_documents_linked :
    ∃ text declarations blocks,
      clientText (serviceGiving "a" "A" "R") ⟨"a.sdk.js", serviceGiving "a" "A" "R", [], []⟩ .standard = .ok text ∧
      Documents (serviceGiving "a" "A" "R") declarations blocks ∧ ∀ d ∈ linkedRecords, d ∈ declarations := by
  have hclosed : (serviceGiving "a" "A" "R").Closed := by
    refine ⟨by decide, ?_⟩
    intro r hr
    simp only [Service.references, serviceGiving, linkedRecords, giving, Method.references, Declaration.references,
      DataType.references, List.flatMap_cons, List.flatMap_nil, List.nil_append, List.append_nil, List.cons_append,
      List.mem_cons, List.not_mem_nil, or_false] at hr
    rcases hr with rfl | rfl | rfl <;>
      simp [Service.Declares, serviceGiving, linkedRecords, Declaration.key, TypeRef.key, DeclBody.kind]
  have hrecords : ∀ d ∈ (serviceGiving "a" "A" "R").declarations, Reaches [serviceGiving "a" "A" "R"] d.key →
      ¬d.IsMixed := by
    simp [serviceGiving, linkedRecords, Declaration.IsMixed]
  obtain ⟨-, hexists, hdocuments⟩ := clientText_documents hclosed _ _
  obtain ⟨text, htext⟩ := hexists.mpr hrecords
  obtain ⟨declarations, blocks, hblocks, -⟩ := hdocuments text htext
  refine ⟨text, declarations, blocks, htext, hblocks, ?_⟩
  -- One record is in the signature, and the other one is mentioned by the first.
  have hfirst : linkedRecords[0] ∈ declarations := by
    refine (hblocks.reached _).mpr ⟨List.getElem_mem _, ?_⟩
    have hr : (⟨"R", "models", .record⟩ : TypeRef) ∈ (serviceGiving "a" "A" "R").exposedReferences := by
      simp [serviceGiving, Service.exposedReferences, ServiceClass.exposedMethods, giving, Exposure.isCallable,
        Method.references, DataType.references]
    exact .signature List.mem_cons_self hr
  have hmention : (⟨"Q", "models", .record⟩ : TypeRef) ∈ linkedRecords[0].references := by
    simp [linkedRecords, Declaration.references, DataType.references]
  obtain ⟨d, hd, hkey, -⟩ := hblocks.named _ (.inr ⟨_, hfirst, hmention⟩)
  have hsecond : d = linkedRecords[1] := by
    have hmem : d ∈ linkedRecords := ((hblocks.reached d).mp hd).1
    exact List.inj_on_of_nodup_map hclosed.distinct hmem (List.getElem_mem _) hkey
  intro d' hd'
  rcases List.mem_cons.mp hd' with rfl | hd'
  · exact hfirst
  · have heq : d' = d := (List.mem_singleton.mp hd').trans hsecond.symm
    rw [heq]
    exact hd

end ServiceStubs.JavaScript
