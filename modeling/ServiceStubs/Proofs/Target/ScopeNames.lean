import ServiceStubs.Proofs.Start
import ServiceStubs.Proofs.Target.Stub
import ServiceStubs.Proofs.Text.Quoted

/-!
# Names of members and stubs

The cases of an enum and the methods of a class are names of one scope each, and the generated code declares an
identifier for each of them. TypeScript and Go keep the names of a scope apart. Python, Swift, Dart and Kotlin
make an identifier of each name by itself, whatever stands beside it, and two names may get the same one.

* `declarationText_members` finds the members of an enum in the text of its declaration;
* `clientText_writesStubs` finds the stubs of a class in the text of its client;
* `safeIdent_eq_iff` says which names get the same identifier;
* `Target.nodup_memberNames_iff` and `Target.nodup_stubNames_iff` say when the identifiers of a scope are
  different, and `scopeNames_nodup_iff` says it of generated texts.
-/

namespace ServiceStubs

/-! ## Members of an enum -/

/-- The convention for the names of enum members. -/
def Target.memberCase : Target → String → String
  | .python | .kotlin => Text.shoutySnakeCase
  | .swift | .dart => Text.lowerCamel
  | .typeScript | .javaScript | .go => id

/-- The words that the names of enum members stay clear of. -/
def Target.memberReserved : Target → List String
  | .dart => Dart.reserved ++ Dart.enumMembers
  | target => target.emitter.reserved

/-- The identifier of an enum member, where it is made of its name alone. -/
def Target.memberIdent (target : Target) (name : String) : String :=
  safeIdent target.memberReserved (target.memberCase name)

/-- The names of the members of an enum. -/
def Target.memberNames (target : Target) (enumName : String) (names : List String) : List String :=
  match target with
  | .typeScript | .javaScript => names.map TypeScript.propertyName
  | .go => (Go.exportedNames names).map (enumName ++ ·)
  | target => names.map target.memberIdent

/-- The value of an enum member in source form. -/
def Target.valueText (target : Target) (kind : EnumValueKind) (cases : List EnumCase) (value : Literal) : String :=
  match target with
  | .typeScript | .javaScript => TypeScript.literalText value
  | .python => Python.literalText value
  | .swift => Swift.literalText value
  | .dart => Dart.literalText value
  | .kotlin => Kotlin.literalText (Kotlin.enumValueType kind cases) value
  | .go => Go.literalText value

/-- An enum member with the text of its value. -/
def Target.memberText (target : Target) (enumName ident value : String) : String :=
  match target with
  | .typeScript | .javaScript => "  " ++ ident ++ " = " ++ value ++ ",\n"
  | .python => "    " ++ ident ++ " = " ++ value
  | .swift => "    case " ++ ident ++ " = " ++ value ++ "\n"
  | .dart => "  " ++ ident ++ "(" ++ value ++ ")"
  | .kotlin => "    " ++ ident ++ "(" ++ value ++ "),\n"
  | .go => "\t" ++ ident ++ " " ++ enumName ++ " = " ++ value ++ "\n"

/-- The members of an enum one behind the other. -/
def Target.membersText (target : Target) (members : List String) : String :=
  match target with
  | .python => "\n".intercalate members
  | .dart => ",\n".intercalate members
  | _ => String.join members

/-- The text of an enum has a member for each case in turn, under these identifiers. -/
def Target.WritesMembers (target : Target) (enumName : String) (cases : List EnumCase) (idents : List String)
    (text : String) : Prop :=
  ∃ kind front back, casesKind enumName none cases = .ok kind ∧
    text = front ++ target.membersText ((cases.zip idents).map fun (c, ident) =>
      target.memberText enumName ident (target.valueText kind cases c.value)) ++ back

theorem exists_documented (docs : Option String) (style : DocStyle) (body : String) :
    ∃ front, documented docs style body = front ++ body := by
  unfold documented
  induction docLines docs style "" with
  | nil => exact ⟨"", by simp⟩
  | cons line rest ih =>
    obtain ⟨front, hfront⟩ := ih
    refine ⟨line ++ "\n" ++ front, ?_⟩
    have hne : rest ++ [body] ≠ [] := by simp
    obtain ⟨second, others, hrest⟩ := List.exists_cons_of_ne_nil hne
    rw [hrest] at hfront
    rw [List.cons_append, hrest, String.append_assoc, ← hfront]
    simp [String.intercalate_cons_cons]

theorem Target.WritesMembers.documented {target : Target} {enumName : String} {cases : List EnumCase}
    {idents : List String} {body : String} (h : target.WritesMembers enumName cases idents body)
    (docs : Option String) (style : DocStyle) :
    target.WritesMembers enumName cases idents (documented docs style body) := by
  obtain ⟨kind, front, back, hkind, rfl⟩ := h
  obtain ⟨above, habove⟩ := exists_documented docs style
    (front ++ target.membersText ((cases.zip idents).map fun (c, ident) =>
      target.memberText enumName ident (target.valueText kind cases c.value)) ++ back)
  refine ⟨kind, above ++ front, back, hkind, ?_⟩
  rw [habove]
  simp only [String.append_assoc]

section

variable {target : Target} {enumName body : String} {kind : EnumValueKind} {cases : List EnumCase}

/-- Where each identifier is made of one name, the members can be read off the cases one by one. -/
theorem writesMembers_of_map (ident : String → String) (front back : String)
    (hnames : target.memberNames enumName (cases.map (·.name)) = (cases.map (·.name)).map ident)
    (hkind : casesKind enumName none cases = .ok kind)
    (hbody : body = front ++ target.membersText (cases.map fun c =>
      target.memberText enumName (ident c.name) (target.valueText kind cases c.value)) ++ back) :
    target.WritesMembers enumName cases (target.memberNames enumName (cases.map (·.name))) body := by
  refine ⟨kind, front, back, hkind, ?_⟩
  have hzip : cases.zip ((cases.map (·.name)).map ident) = cases.map fun c => (c, ident c.name) := by
    rw [List.map_map]
    exact List.map_prod_left_eq_zip.symm
  rw [hbody, hnames, hzip, List.map_map]
  rfl

theorem membersText_nil (target : Target) : target.membersText [] = "" := by
  cases target <;> rfl

/-- An enum without cases has no members, whatever its text. -/
theorem writesMembers_nil (target : Target) (enumName body : String) :
    target.WritesMembers enumName [] (target.memberNames enumName ([].map EnumCase.name)) body :=
  ⟨.number, body, "", rfl, by simp [membersText_nil]⟩

theorem TypeScript.enumText_members (hkind : casesKind enumName none cases = .ok kind) :
    Target.typeScript.WritesMembers enumName cases (Target.typeScript.memberNames enumName (cases.map (·.name)))
      ("export enum " ++ enumName ++ " \x7b\n" ++
        String.join (cases.map fun c => "  " ++ propertyName c.name ++ " = " ++ literalText c.value ++ ",\n") ++
        "\x7d") :=
  writesMembers_of_map propertyName _ _ rfl hkind rfl

theorem Python.enumText_members (hkind : casesKind enumName none cases = .ok kind) :
    Target.python.WritesMembers enumName cases (Target.python.memberNames enumName (cases.map (·.name)))
      (enumText enumName kind cases) :=
  writesMembers_of_map (fun name => safeIdent reserved (Text.shoutySnakeCase name)) _ "" rfl hkind
    String.append_empty.symm

theorem Swift.enumText_members (hkind : casesKind enumName none cases = .ok kind) :
    Target.swift.WritesMembers enumName cases (Target.swift.memberNames enumName (cases.map (·.name)))
      (enumText enumName kind cases) := by
  cases cases with
  | nil => exact writesMembers_nil _ _ _
  | cons c rest =>
    exact writesMembers_of_map (fun name => safeIdent reserved (Text.lowerCamel name)) _ _ rfl hkind rfl

theorem Dart.enumText_members (hkind : casesKind enumName none cases = .ok kind) :
    Target.dart.WritesMembers enumName cases (Target.dart.memberNames enumName (cases.map (·.name)))
      (enumText enumName kind cases) := by
  cases cases with
  | nil => exact writesMembers_nil _ _ _
  | cons c rest =>
    exact writesMembers_of_map (fun name => safeIdent (reserved ++ enumMembers) (Text.lowerCamel name))
      ("enum " ++ enumName ++ " \x7b\n") _ rfl hkind (by
        unfold enumText Target.membersText Target.memberText Target.valueText
        simp only [List.isEmpty_cons, Bool.false_eq_true, reduceIte, String.append_assoc]
        rfl)

theorem Kotlin.enumText_members (hkind : casesKind enumName none cases = .ok kind) :
    Target.kotlin.WritesMembers enumName cases (Target.kotlin.memberNames enumName (cases.map (·.name)))
      (enumText enumName kind cases) := by
  cases cases with
  | nil => exact writesMembers_nil _ _ _
  | cons c rest =>
    refine writesMembers_of_map (fun name => safeIdent reserved (Text.shoutySnakeCase name))
      ("enum class " ++ enumName ++ "(override val value: " ++ typeText (enumValueType kind (c :: rest)) ++
        ") : WireEnum" ++ " \x7b\n") "    ;\n\x7d" rfl hkind ?_
    unfold enumText
    dsimp only [List.isEmpty_cons]
    rw [if_neg Bool.false_ne_true, ← String.append_assoc, ← String.append_assoc]
    rfl

theorem Go.enumText_members (hkind : casesKind enumName none cases = .ok kind) :
    Target.go.WritesMembers enumName cases (Target.go.memberNames enumName (cases.map (·.name)))
      (enumText enumName kind cases) := by
  cases cases with
  | nil => exact writesMembers_nil _ _ _
  | cons c rest =>
    refine ⟨kind, "type " ++ enumName ++ " " ++ enumValueType kind (c :: rest) ++ "\n\nconst (\n", ")", hkind,
      ?_⟩
    unfold enumText Target.memberNames
    rw [List.zip_map_right, List.map_map]
    simp only [List.isEmpty_cons, Bool.false_eq_true, reduceIte, Function.comp_def, Prod.map, Target.memberText, id,
      String.append_assoc]
    rfl

/-- The text of an enum is made for the kind of its values, and stands behind its documentation. -/
theorem writesMembers_of_kind {idents : List String} {enumText : EnumValueKind → String} {docs : Option String}
    {style : DocStyle} {text : String}
    (hmembers : ∀ kind, casesKind enumName none cases = .ok kind →
      target.WritesMembers enumName cases idents (enumText kind))
    (h : ((casesKind enumName none cases).map enumText).map (documented docs style) = .ok text) :
    target.WritesMembers enumName cases idents text := by
  obtain ⟨body, hbody, rfl⟩ := map_eq_ok_iff.mp h
  obtain ⟨kind, hkind, rfl⟩ := map_eq_ok_iff.mp hbody
  exact (hmembers kind hkind).documented docs style

/-- The text of an enum has its members under their names, in the order of the cases. -/
theorem declarationText_members {d : Declaration} {text : String} (hjs : target ≠ .javaScript)
    (hbody : d.body = .enumeration cases) (h : target.emitter.declarationText d = .ok text) :
    target.WritesMembers d.name cases (target.memberNames d.name (cases.map (·.name))) text := by
  obtain ⟨name, path, body, docs⟩ := d
  obtain rfl : body = .enumeration cases := hbody
  cases target with
  | javaScript => contradiction
  | typeScript =>
    obtain ⟨body, hbody, rfl⟩ := map_eq_ok_iff.mp h
    obtain ⟨kind?, hkinds, rfl⟩ := map_eq_ok_iff.mp hbody
    obtain ⟨kind, hkind, -⟩ := map_eq_ok_iff.mp hkinds
    exact (TypeScript.enumText_members hkind).documented docs .block
  | python => exact writesMembers_of_kind (fun _ => Python.enumText_members) h
  | swift => exact writesMembers_of_kind (fun _ => Swift.enumText_members) h
  | dart => exact writesMembers_of_kind (fun _ => Dart.enumText_members) h
  | kotlin => exact writesMembers_of_kind (fun _ => Kotlin.enumText_members) h
  | go => exact writesMembers_of_kind (fun _ => Go.enumText_members) h

end

/-! ## Stubs of a class -/

/-- What stands in front of the name of a stub. -/
def Target.stubLead (target : Target) (className : String) (m : Method) : String :=
  match target with
  | .typeScript | .javaScript => "  static async "
  | .python => "    def "
  | .swift => "    public static func "
  | .dart => "  static Future<" ++ Dart.typeText m.returns.awaited ++ "> "
  | .kotlin => "        suspend fun "
  | .go => "func (c *" ++ className ++ ") "

/-- The text of a client has the lines of a stub for each method, under these identifiers. -/
def Target.WritesStubs (target : Target) (className : String) (methods : List Method) (idents : List String)
    (text : String) : Prop :=
  ∃ lines, text = unlines lines ∧
    ∀ m ident, (m, ident) ∈ methods.zip idents →
      (target.stub className m ident).head = target.stubLead className m ++ ident ∧
      (target.stub className m ident).lines target <:+: lines

theorem mem_zip_map {α β : Type} {f : α → β} {xs : List α} {x : α} {y : β} (h : (x, y) ∈ xs.zip (xs.map f)) :
    y = f x := by
  rw [← List.map_prod_left_eq_zip] at h
  obtain ⟨x', -, heq⟩ := List.mem_map.mp h
  cases heq
  rfl

/-- The head of a stub ends in its name. -/
theorem head_stub {target : Target} {className : String} {methods : List Method} {m : Method} {ident : String}
    (h : (m, ident) ∈ methods.zip (target.stubNames (methods.map (·.name)))) :
    (target.stub className m ident).head = target.stubLead className m ++ ident := by
  cases target with
  | typeScript | javaScript =>
    obtain rfl := mem_zip_map h
    rfl
  | go => rfl
  | python | swift | dart | kotlin =>
    obtain rfl : ident = _ := mem_zip_map (by simpa only [Target.stubNames, List.map_map] using h)
    rfl

theorem clientText_writesStubs {target : Target} {s : Service} {file : FilePlan} {metadata : Metadata}
    {text : String} (h : target.emitter.clientText s file metadata = .ok text) :
    target.WritesStubs s.api.name s.api.exposedMethods
      (target.stubNames (s.api.exposedMethods.map (·.name))) text := by
  obtain ⟨lines, htext, hstubs⟩ := clientText_stubs h
  exact ⟨lines, htext, fun m ident hm => ⟨head_stub hm, hstubs m ident hm⟩⟩

/-! ## Identifiers made name by name -/

/-- Two names get the same identifier, where each is made by itself: in identifier characters they are the same,
or one is a reserved word and the other this word with the underscore that the reserved one gets. -/
def SameIdent (reserved : List String) (a b : String) : Prop :=
  sanitized a = sanitized b ∨
    (sanitized a ∈ reserved ∧ sanitized b = sanitized a ++ "_") ∨
    (sanitized b ∈ reserved ∧ sanitized a = sanitized b ++ "_")

theorem safeIdent_eq_iff {reserved : List String} (h : ∀ word ∈ reserved, '_' ∉ word.toList) (a b : String) :
    safeIdent reserved a = safeIdent reserved b ↔ SameIdent reserved a b := by
  have hlonger : ∀ ident : String, ident ++ "_" ∉ reserved := fun ident hmem => h _ hmem (by simp)
  unfold safeIdent
  -- Two names meet directly, or one of them has been extended to what the other is.
  by_cases ha : sanitized a ∈ reserved
  · rw [if_pos ha]
    by_cases hb : sanitized b ∈ reserved
    · rw [if_pos hb, String.append_left_inj]
      refine ⟨.inl, ?_⟩
      rintro (heq | ⟨-, heq⟩ | ⟨-, heq⟩)
      · exact heq
      · exact absurd (heq ▸ hb) (hlonger _)
      · exact absurd (heq ▸ ha) (hlonger _)
    · rw [if_neg hb]
      refine ⟨fun heq => .inr (.inl ⟨ha, heq.symm⟩), ?_⟩
      rintro (heq | ⟨-, heq⟩ | ⟨hb', -⟩)
      · exact absurd (heq ▸ ha) hb
      · exact heq.symm
      · exact absurd hb' hb
  · rw [if_neg ha]
    by_cases hb : sanitized b ∈ reserved
    · rw [if_pos hb]
      refine ⟨fun heq => .inr (.inr ⟨hb, heq⟩), ?_⟩
      rintro (heq | ⟨ha', -⟩ | ⟨-, heq⟩)
      · exact absurd (heq ▸ hb) ha
      · exact absurd ha' ha
      · exact heq
    · rw [if_neg hb]
      refine ⟨.inl, ?_⟩
      rintro (heq | ⟨ha', -⟩ | ⟨hb', -⟩)
      · exact heq
      · exact absurd ha' ha
      · exact absurd hb' hb

instance (reserved : List String) (a b : String) : Decidable (SameIdent reserved a b) :=
  inferInstanceAs (Decidable (_ ∨ _ ∨ _))

/-- Whether the members of an enum, and the stubs of a class, get their identifiers name by name. The other
targets keep the names of a scope apart. -/
def Target.nameByName : Target → Bool
  | .python | .swift | .dart | .kotlin => true
  | .typeScript | .javaScript | .go => false

/-- Two cases of an enum get the same identifier. -/
def Target.MembersClash (target : Target) (a b : String) : Prop :=
  target.nameByName ∧ SameIdent target.memberReserved (target.memberCase a) (target.memberCase b)

/-- Two methods of a class get the same identifier. -/
def Target.StubsClash (target : Target) (a b : String) : Prop :=
  target.nameByName ∧ SameIdent target.emitter.reserved a b

instance (target : Target) (a b : String) : Decidable (target.MembersClash a b) :=
  inferInstanceAs (Decidable (_ ∧ _))

instance (target : Target) (a b : String) : Decidable (target.StubsClash a b) :=
  inferInstanceAs (Decidable (_ ∧ _))

theorem underscore_notMem_reserved (target : Target) : ∀ word ∈ target.emitter.reserved, '_' ∉ word.toList := by
  cases target <;> decide

theorem underscore_notMem_memberReserved (target : Target) :
    ∀ word ∈ target.memberReserved, '_' ∉ word.toList := by
  cases target with
  | dart => decide
  | _ => exact underscore_notMem_reserved _

theorem memberIdent_eq_iff {target : Target} (h : target.nameByName) (a b : String) :
    target.memberIdent a = target.memberIdent b ↔ target.MembersClash a b := by
  unfold Target.memberIdent Target.MembersClash
  rw [safeIdent_eq_iff (underscore_notMem_memberReserved target), and_iff_right h]

theorem stubIdent_eq_iff {target : Target} (h : target.nameByName) (a b : String) :
    safeIdent target.emitter.reserved a = safeIdent target.emitter.reserved b ↔ target.StubsClash a b := by
  unfold Target.StubsClash
  rw [safeIdent_eq_iff (underscore_notMem_reserved target), and_iff_right h]

/-! ## Names that are kept apart -/

/-- A name that needs no quotation marks does not begin with one. -/
theorem TypeScript.not_isPlainName_quote (name : String) : ¬isPlainName (Text.quote name false) := by
  have hquote : Text.isAlphabetic '"' = false := by decide
  simp [isPlainName, Text.quote, Text.jsonQuoted, hquote]

theorem TypeScript.propertyName_injective : Function.Injective propertyName := by
  have hplain : ∀ a b, isPlainName a → a ≠ Text.quote b false := by
    rintro a b ha rfl
    exact not_isPlainName_quote b ha
  intro a b h
  unfold propertyName at h
  by_cases ha : isPlainName a
  · rw [if_pos ha] at h
    by_cases hb : isPlainName b
    · rwa [if_pos hb] at h
    · rw [if_neg hb] at h
      exact absurd h (hplain a b ha)
  · rw [if_neg ha] at h
    by_cases hb : isPlainName b
    · rw [if_pos hb] at h
      exact absurd h.symm (hplain b a hb)
    · rw [if_neg hb] at h
      exact Text.jsonQuoted_injective h

/-- Every exported name stays clear of those before it. -/
theorem Go.exportedAfter_fresh (taken names : List String) :
    (exportedAfter taken names).Nodup ∧ ∀ ident ∈ exportedAfter taken names, ident ∉ taken := by
  induction names generalizing taken with
  | nil => simp [exportedAfter]
  | cons name rest ih =>
    obtain ⟨n, hform, -, hfree⟩ := freshIdent_spec taken (exportedName name)
    rw [← hform] at hfree
    obtain ⟨hnodup, hclear⟩ := ih (freshIdent taken (exportedName name) :: taken)
    unfold exportedAfter
    constructor
    · rw [List.nodup_cons]
      exact ⟨fun hmem => hclear _ hmem List.mem_cons_self, hnodup⟩
    · intro ident hident
      rcases List.mem_cons.mp hident with rfl | hident
      · exact hfree
      · exact fun hmem => hclear ident hident (List.mem_cons_of_mem _ hmem)

theorem Go.nodup_exportedNames (names : List String) : (exportedNames names).Nodup :=
  (exportedAfter_fresh [] names).1

/-! ## Scopes -/

/-- The values of a function are different if no two arguments have the same one. -/
theorem nodup_map_iff_pairwise {α β : Type} {f : α → β} {R : α → α → Prop} (h : ∀ a b, f a = f b ↔ R a b)
    (xs : List α) : (xs.map f).Nodup ↔ xs.Pairwise fun a b => ¬R a b := by
  unfold List.Nodup
  rw [List.pairwise_map]
  simp only [ne_eq, h]

theorem Target.not_membersClash {target : Target} (h : target.nameByName = false) (a b : String) :
    ¬target.MembersClash a b := by
  simp [MembersClash, h]

theorem Target.not_stubsClash {target : Target} (h : target.nameByName = false) (a b : String) :
    ¬target.StubsClash a b := by
  simp [StubsClash, h]

theorem Target.nodup_memberNames_iff (target : Target) (enumName : String) {names : List String}
    (h : names.Nodup) :
    (target.memberNames enumName names).Nodup ↔ names.Pairwise fun a b => ¬target.MembersClash a b := by
  cases target with
  | typeScript | javaScript =>
    exact iff_of_true (h.map TypeScript.propertyName_injective) (List.pairwise_of_forall (not_membersClash rfl))
  | go =>
    have hprefix : Function.Injective (enumName ++ ·) := by
      intro a b hab
      simpa using hab
    exact iff_of_true ((Go.nodup_exportedNames names).map hprefix) (List.pairwise_of_forall (not_membersClash rfl))
  | python | swift | dart | kotlin => exact nodup_map_iff_pairwise (memberIdent_eq_iff rfl) names

theorem Target.nodup_stubNames_iff (target : Target) {names : List String} (h : names.Nodup) :
    (target.stubNames names).Nodup ↔ names.Pairwise fun a b => ¬target.StubsClash a b := by
  cases target with
  | typeScript | javaScript => exact iff_of_true h (List.pairwise_of_forall (not_stubsClash rfl))
  | go => exact iff_of_true (Go.nodup_exportedNames names) (List.pairwise_of_forall (not_stubsClash rfl))
  | python | swift | dart | kotlin => exact nodup_map_iff_pairwise (stubIdent_eq_iff rfl) names

/-- An enum is written with a member for each case, and a client with a stub for each exposed method. Different
names have different identifiers if no two of them clash, which none do in TypeScript and Go. -/
theorem scopeNames_nodup_iff {target : Target} (hjs : target ≠ .javaScript) :
    (∀ (d : Declaration) (cases : List EnumCase) (text : String),
      d.body = .enumeration cases → target.emitter.declarationText d = .ok text →
      target.WritesMembers d.name cases (target.memberNames d.name (cases.map (·.name))) text ∧
      ((cases.map (·.name)).Nodup →
        ((target.memberNames d.name (cases.map (·.name))).Nodup ↔
          (cases.map (·.name)).Pairwise fun a b => ¬target.MembersClash a b))) ∧
    ∀ (s : Service) (file : FilePlan) (metadata : Metadata) (text : String),
      target.emitter.clientText s file metadata = .ok text →
      target.WritesStubs s.api.name s.api.exposedMethods
        (target.stubNames (s.api.exposedMethods.map (·.name))) text ∧
      ((s.api.exposedMethods.map (·.name)).Nodup →
        ((target.stubNames (s.api.exposedMethods.map (·.name))).Nodup ↔
          (s.api.exposedMethods.map (·.name)).Pairwise fun a b => ¬target.StubsClash a b)) := by
  constructor
  · intro d cases text hbody htext
    exact ⟨declarationText_members hjs hbody htext, target.nodup_memberNames_iff d.name⟩
  · intro s file metadata text htext
    exact ⟨clientText_writesStubs htext, target.nodup_stubNames_iff⟩

/-- An enum with two cases of these names. -/
def twoCases (first second : String) : Declaration where
  name := "Mode"
  modulePath := "s"
  body := .enumeration [⟨first, .string "a"⟩, ⟨second, .string "b"⟩]
  docs := none

/-- A service with two methods of these names. -/
def twoMethods (first second : String) : Service where
  language := .typeScript
  modulePath := "s"
  api := ⟨"S", [⟨first, [], .void, .rpc, none⟩, ⟨second, [], .void, .rpc, none⟩], none⟩
  declarations := []

theorem scopeNames_nodup_iff_apart :
    Target.python ≠ .javaScript ∧
      (∃ text, Target.python.emitter.declarationText (twoCases "fooBar" "foo") = .ok text ∧
        Target.python.WritesMembers "Mode" [⟨"fooBar", .string "a"⟩, ⟨"foo", .string "b"⟩]
          (Target.python.memberNames "Mode" ["fooBar", "foo"]) text) ∧
      ["fooBar", "foo"].Nodup ∧ (Target.python.memberNames "Mode" ["fooBar", "foo"]).Nodup ∧
      (∃ text, Target.python.emitter.clientText (twoMethods "in" "from_") ⟨"s.py", none, [], []⟩ .standard =
          .ok text ∧
        Target.python.WritesStubs "S" (twoMethods "in" "from_").api.exposedMethods
          (Target.python.stubNames ["in", "from_"]) text) ∧
      ["in", "from_"].Nodup ∧ (Target.python.stubNames ["in", "from_"]).Nodup := by
  obtain ⟨hmembers, hstubs⟩ := scopeNames_nodup_iff (show Target.python ≠ .javaScript by decide)
  obtain ⟨hdeclaration, hcases⟩ := hmembers (twoCases "fooBar" "foo") _ _ rfl rfl
  obtain ⟨hclient, hmethods⟩ := hstubs (twoMethods "in" "from_") ⟨"s.py", none, [], []⟩ .standard _ rfl
  -- The upper case of the one name is the beginning of that of the other, and no more.
  have hapart : ¬Target.python.MembersClash "fooBar" "foo" := by
    have hfirst : Target.python.memberCase "fooBar" = "FOO_BAR" := by decide +kernel
    have hsecond : Target.python.memberCase "foo" = "FOO" := by decide +kernel
    unfold Target.MembersClash
    rw [hfirst, hsecond]
    decide
  refine ⟨by decide, ⟨_, rfl, hdeclaration⟩, by decide, ?_, ⟨_, rfl, hclient⟩, by decide, ?_⟩
  · exact (hcases (by decide)).mpr (by simpa using hapart)
  · exact (hmethods (by decide)).mpr (by decide)

/-- Name by name, `fooBar` and `foo_bar` become one member of an enum; and the reserved word `in` gets the
underscore that a method `in_` has already. -/
theorem nameByName_not_nodup {target : Target} (h : target.nameByName) :
    ¬(target.memberNames "Mode" ["fooBar", "foo_bar"]).Nodup ∧ ¬(target.stubNames ["in", "in_"]).Nodup := by
  have hshouty : Text.shoutySnakeCase "fooBar" = Text.shoutySnakeCase "foo_bar" := by decide +kernel
  have hcamel : Text.lowerCamel "fooBar" = Text.lowerCamel "foo_bar" := by decide +kernel
  have hclashes : target.memberCase "fooBar" = target.memberCase "foo_bar" ∧ target.StubsClash "in" "in_" := by
    cases target with
    | python | kotlin => exact ⟨hshouty, by decide⟩
    | swift | dart => exact ⟨hcamel, by decide⟩
    | typeScript | javaScript | go => cases h
  obtain ⟨hcase, hstubs⟩ := hclashes
  constructor
  · rw [target.nodup_memberNames_iff "Mode" (by decide), List.pairwise_pair, not_not]
    exact ⟨h, .inl (congrArg sanitized hcase)⟩
  · rw [target.nodup_stubNames_iff (by decide), List.pairwise_pair, not_not]
    exact hstubs

theorem scopeNames_not_nodup :
    (∃ text, Target.python.emitter.declarationText (twoCases "fooBar" "foo_bar") = .ok text ∧
      Target.python.WritesMembers "Mode" [⟨"fooBar", .string "a"⟩, ⟨"foo_bar", .string "b"⟩]
        (Target.python.memberNames "Mode" ["fooBar", "foo_bar"]) text) ∧
    ["fooBar", "foo_bar"].Nodup ∧ ¬(Target.python.memberNames "Mode" ["fooBar", "foo_bar"]).Nodup ∧
    (∃ text, Target.python.emitter.clientText (twoMethods "in" "in_") ⟨"s.py", none, [], []⟩ .standard = .ok text ∧
      Target.python.WritesStubs "S" (twoMethods "in" "in_").api.exposedMethods
        (Target.python.stubNames ["in", "in_"]) text) ∧
    ["in", "in_"].Nodup ∧ ¬(Target.python.stubNames ["in", "in_"]).Nodup := by
  obtain ⟨hmembers, hstubs⟩ := nameByName_not_nodup (show Target.python.nameByName by decide)
  have hdeclaration := declarationText_members (show Target.python ≠ .javaScript by decide)
    (show (twoCases "fooBar" "foo_bar").body = .enumeration _ from rfl) rfl
  have hclient := clientText_writesStubs (show Target.python.emitter.clientText (twoMethods "in" "in_")
    ⟨"s.py", none, [], []⟩ .standard = .ok _ from rfl)
  exact ⟨⟨_, rfl, hdeclaration⟩, by decide, hmembers, ⟨_, rfl, hclient⟩, by decide, hstubs⟩

end ServiceStubs
