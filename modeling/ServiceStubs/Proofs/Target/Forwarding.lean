import ServiceStubs.Proofs.Target.Stub

/-!
# Parameters and their forwarding

A stub declares the parameters of its method and passes them on in its call. The declarations and the arguments
are written by separate code, and reserved words, characters without a place in identifiers and defaults change
both; `Stub.Forwards` says that they fit together, and `stub_forwards` that they do in every target.
-/

namespace ServiceStubs

/-- The stub declares the parameters, each once and in order, under identifiers of their own, and passes them on
under these. -/
structure Stub.Forwards (target : Target) (params : List Parameter) (stub : Stub) : Prop where
  /-- There is one entry for each parameter. It goes by the name in identifier characters, with underscores
  behind it where that is taken. -/
  entries : List.Forall₂
    (fun p e => (∃ trailing, e = target.entry p e.ident trailing) ∧
      ∃ n, e.ident = underscored (sanitized p.name) n)
    params stub.entries
  nodup : (stub.entries.map (·.ident)).Nodup
  unreserved : ∀ e ∈ stub.entries, e.ident ∉ target.emitter.reserved
  /-- The arguments are the identifiers of the entries. -/
  args : stub.args.map (·.ident) = stub.entries.map (·.ident)
  /-- An argument goes through a function where its parameter may be left out and the target is Go. -/
  wrapped : List.Forall₂
    (fun p a => a.wrapper? = if target = .go ∧ p.optional then some "optional" else none)
    params stub.args
  /-- Where defaults have to end the list, no entry without one stands behind an entry with one. -/
  defaults : target ∈ [.python, .dart, .kotlin, .swift] →
    stub.entries.Pairwise fun e later => e.default?.isSome → later.default?.isSome
  /-- The entries that Dart puts in brackets are those that end the list. -/
  bracketed : target = .dart →
    stub.entries = (stub.entries.filter fun e => e.default?.isNone) ++
      stub.entries.filter fun e => e.default?.isSome

/-! ## Identifiers of entries -/

variable {target : Target} {params : List Parameter}

@[simp] theorem length_entries (target : Target) (params : List Parameter) :
    (target.entries params).length = params.length := by
  simp [Target.entries, length_idents, length_trailingOptional]

theorem ident_entry (target : Target) (p : Parameter) (ident : String) (trailing : Bool) :
    (target.entry p ident trailing).ident = ident := by
  cases target <;> cases trailing <;> cases hp : p.defaultValue <;> simp [Target.entry, trailingEntry, hp]

theorem map_ident_entries (target : Target) (params : List Parameter) :
    (target.entries params).map (·.ident) = target.idents params := by
  have hparams : (target.idents params).length ≤ params.length := by rw [length_idents]
  have htrailing : (params.zip (target.idents params)).length ≤ (trailingOptional params).length := by
    rw [List.length_zip, length_idents, length_trailingOptional, Nat.min_self]
  unfold Target.entries
  conv_rhs => rw [← List.map_snd_zip hparams, ← List.map_fst_zip htrailing]
  rw [List.map_map, List.map_map]
  exact List.map_congr_left fun _ _ => ident_entry _ _ _ _

theorem map_ident_arguments (target : Target) (params : List Parameter) :
    (target.arguments params).map (·.ident) = target.idents params := by
  have hlength : (target.idents params).length ≤ params.length := by rw [length_idents]
  unfold Target.arguments
  rw [List.map_map]
  exact List.map_snd_zip hlength

/-- What `safeIdents_forall₂` says of the names of a parameter list. -/
theorem idents_forall₂ (target : Target) (params : List Parameter) :
    List.Forall₂
      (fun p ident => ident ∉ target.avoided ∧ (∃ n, ident = underscored (sanitized p.name) n) ∧
        (sanitized p.name = p.name → p.name ∉ target.avoided → ident = p.name))
      params (target.idents params) := by
  have h := safeIdents_forall₂ target.avoided (params.map (·.name))
  rwa [List.forall₂_map_left_iff] at h

theorem reserved_subset_avoided (target : Target) : target.emitter.reserved ⊆ target.avoided := by
  intro word hword
  cases target with
  | go => exact List.mem_append_left _ hword
  | _ => exact hword

/-! ## Entries and arguments in order -/

theorem entries_forall₂ (target : Target) (params : List Parameter) :
    List.Forall₂
      (fun p e => (∃ trailing, e = target.entry p e.ident trailing) ∧
        ∃ n, e.ident = underscored (sanitized p.name) n)
      params (target.entries params) := by
  have hidents := idents_forall₂ target params
  rw [List.forall₂_iff_get] at hidents ⊢
  refine ⟨(length_entries target params).symm, ?_⟩
  intro i hparam hentry
  obtain ⟨-, hform, -⟩ := hidents.2 i hparam (by rwa [length_idents])
  have htrailing : i < (trailingOptional params).length := by rwa [length_trailingOptional]
  have heq : (target.entries params).get ⟨i, hentry⟩ =
      target.entry (params.get ⟨i, hparam⟩) ((target.idents params).get ⟨i, by rwa [length_idents]⟩)
        ((trailingOptional params).get ⟨i, htrailing⟩) := by
    simp [Target.entries]
  rw [heq, ident_entry]
  exact ⟨⟨_, rfl⟩, hform⟩

theorem arguments_forall₂ (target : Target) (params : List Parameter) :
    List.Forall₂ (fun p a => a.wrapper? = if target = .go ∧ p.optional then some "optional" else none)
      params (target.arguments params) := by
  rw [List.forall₂_iff_get]
  refine ⟨by simp [Target.arguments, length_idents], ?_⟩
  intro i hparam harg
  simp [Target.arguments, Target.argument]

/-! ## Defaults -/

/-- Behind a parameter that may be left out with all that follow, there are only such parameters. -/
theorem pairwise_trailingOptional (params : List Parameter) :
    (trailingOptional params).Pairwise fun trailing later => trailing = true → later = true := by
  induction params with
  | nil => exact .nil
  | cons p rest ih =>
    refine .cons ?_ ih
    intro later hlater htrailing
    have hall : (trailingOptional rest).all id := (Bool.and_eq_true_iff.mp htrailing).2
    exact List.all_eq_true.mp hall later hlater

theorem isSome_default?_trailingEntry (type optionalType nothing ident : String) (value? : Option String)
    (trailing : Bool) :
    (trailingEntry type optionalType nothing ident value? trailing).default?.isSome = trailing := by
  cases trailing <;> cases value? <;> rfl

/-- Where defaults have to end the list, the parameters with a default are those that end the list. -/
theorem isSome_default?_entry (h : target ∈ [.python, .dart, .kotlin, .swift]) (p : Parameter) (ident : String)
    (trailing : Bool) : (target.entry p ident trailing).default?.isSome = trailing := by
  simp only [List.mem_cons, List.not_mem_nil, or_false] at h
  rcases h with rfl | rfl | rfl | rfl
  · exact isSome_default?_trailingEntry _ _ _ _ _ _
  · exact Dart.isSome_default?_entry p ident trailing
  · exact isSome_default?_trailingEntry _ _ _ _ _ _
  · exact isSome_default?_trailingEntry _ _ _ _ _ _

theorem pairwise_default?_entries (h : target ∈ [.python, .dart, .kotlin, .swift]) (params : List Parameter) :
    (target.entries params).Pairwise fun e later => e.default?.isSome → later.default?.isSome := by
  have hlength : (trailingOptional params).length ≤ (params.zip (target.idents params)).length := by
    rw [List.length_zip, length_idents, length_trailingOptional, Nat.min_self]
  have hpairwise := pairwise_trailingOptional params
  rw [← List.map_snd_zip hlength, List.pairwise_map] at hpairwise
  unfold Target.entries
  rw [List.pairwise_map]
  refine hpairwise.imp ?_
  rintro ⟨⟨p, ident⟩, trailing⟩ ⟨⟨q, ident'⟩, later⟩ himp
  rw [isSome_default?_entry h, isSome_default?_entry h]
  exact himp

/-- A list in which nothing of one kind stands behind the other kind is the one kind, then the other. -/
theorem eq_filter_append_filter {α : Type} {f : α → Bool} {xs : List α}
    (h : xs.Pairwise fun x later => f x → f later) :
    xs = xs.filter (fun x => !f x) ++ xs.filter f := by
  induction h with
  | nil => rfl
  | @cons x rest hx _ ih =>
    by_cases hfirst : f x
    · have hall : ∀ y ∈ rest, f y := fun y hy => hx y hy hfirst
      have hnone : rest.filter (fun y => !f y) = [] := by
        rw [List.filter_eq_nil_iff]
        intro y hy
        simp [hall y hy]
      rw [List.filter_cons_of_neg (by simp [hfirst]), List.filter_cons_of_pos hfirst, hnone, List.nil_append,
        List.filter_eq_self.mpr hall]
    · rw [List.filter_cons_of_pos (by simp [hfirst]), List.filter_cons_of_neg hfirst, List.cons_append, ← ih]

/-! ## Stubs -/

@[simp] theorem entries_stub (target : Target) (className : String) (m : Method) (exported : String) :
    (target.stub className m exported).entries = target.entries m.params := by
  cases target <;> rfl

@[simp] theorem args_stub (target : Target) (className : String) (m : Method) (exported : String) :
    (target.stub className m exported).args = target.arguments m.params := by
  cases target <;> rfl

/-- Every target renders a method as a stub that declares the parameters of the method and passes them on; and
the client of a service has this stub for each exposed method. -/
theorem stub_forwards (target : Target) (className : String) (m : Method)
    (hnames : (m.params.map (·.name)).Nodup) :
    (∀ exported, target.methodLines className m exported = (target.stub className m exported).lines target ∧
      (target.stub className m exported).Forwards target m.params) ∧
    ∀ (s : Service) (file : FilePlan) (metadata : Metadata) (text : String),
      s.api.name = className → m ∈ s.api.exposedMethods →
      target.emitter.clientText s file metadata = .ok text →
      ∃ exported lines, text = unlines lines ∧ (target.stub className m exported).lines target <:+: lines := by
  constructor
  · intro exported
    refine ⟨methodLines_eq_lines target className m exported, ?_⟩
    -- What a stub declares and what it passes on are the entries and the arguments of the parameters.
    constructor
    case entries =>
      rw [entries_stub]
      exact entries_forall₂ target m.params
    case nodup =>
      rw [entries_stub, map_ident_entries]
      exact nodup_safeIdents hnames
    case unreserved =>
      rw [entries_stub]
      intro e he hreserved
      have hident : e.ident ∈ target.idents m.params := by
        rw [← map_ident_entries]
        exact List.mem_map_of_mem he
      obtain ⟨p, -, havoided, -⟩ := exists_of_mem_forall₂ (idents_forall₂ target m.params) hident
      exact havoided (reserved_subset_avoided target hreserved)
    case args => rw [args_stub, entries_stub, map_ident_entries, map_ident_arguments]
    case wrapped =>
      rw [args_stub]
      exact arguments_forall₂ target m.params
    case defaults =>
      intro h
      rw [entries_stub]
      exact pairwise_default?_entries h m.params
    case bracketed =>
      rintro rfl
      rw [entries_stub]
      simp only [← Option.not_isSome]
      exact eq_filter_append_filter (pairwise_default?_entries (by decide) m.params)
  · rintro s file metadata text rfl hm htext
    exact clientText_lines htext hm

/-- A method whose parameters are a reserved word, that word with an underscore, and one that may be left out. -/
def shadowedMethod : Method where
  name := "f"
  params := [⟨"class", .string, false, none⟩, ⟨"class_", .string, false, none⟩, ⟨"n", .integer, true, none⟩]
  returns := .void
  exposure := .rpc
  docs := none

/-- A service with this method only. -/
def shadowedService : Service where
  language := .typeScript
  modulePath := "s"
  api := ⟨"S", [shadowedMethod], none⟩
  declarations := []

theorem stub_forwards_shadowed :
    (shadowedMethod.params.map (·.name)).Nodup ∧
      (Target.kotlin.stub "S" shadowedMethod "").signature .kotlin =
        "        suspend fun f(class__: String, class_: String, n: Int? = null) \x7b" ∧
      (Target.kotlin.stub "S" shadowedMethod "").callLine =
        "            remote.callVoid(\"S.f\", listOf(class__, class_, n))" ∧
      (Target.kotlin.stub "S" shadowedMethod "").Forwards .kotlin shadowedMethod.params ∧
      ∃ text exported lines,
        Target.kotlin.emitter.clientText shadowedService ⟨"s.kt", some shadowedService, [], []⟩ .standard =
          .ok text ∧ text = unlines lines ∧
        (Target.kotlin.stub "S" shadowedMethod exported).lines .kotlin <:+: lines := by
  obtain ⟨hall, hclient⟩ := stub_forwards .kotlin "S" shadowedMethod (by decide)
  obtain ⟨exported, lines, htext, hlines⟩ :=
    hclient shadowedService ⟨"s.kt", some shadowedService, [], []⟩ .standard _ rfl List.mem_cons_self rfl
  exact ⟨by decide, by decide +kernel, rfl, (hall "").2, _, exported, lines, rfl, htext, hlines⟩

end ServiceStubs
