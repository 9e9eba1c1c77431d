import ServiceStubs.Proofs.Target.Forwarding

/-!
# Parameters that capture names of the body

The body of a stub refers to its client, to the runtime and, in Go, to the type of the result. Identifiers of
parameters stay clear of reserved words; only Go adds names of the body to these. A parameter that goes by any
other of these names captures it.

* `references_stub` lists the names that a body refers to;
* `stub_captures_iff` says which parameters capture one of them;
* `stub_captures` are methods of which a parameter does.
-/

namespace ServiceStubs

/-- A parameter goes by an identifier that the body uses for something else. -/
def Stub.Captures (stub : Stub) (x : String) : Prop :=
  x ∈ stub.references ∧ x ∈ stub.entries.map (·.ident)

/-! ## Names of the body -/

/-- What the body of a stub refers to: the client, the runtime, and in Dart the variable for the answer; in Go
the receiver, the functions of the runtime, and whatever the type of the result names. -/
def Target.bodyNames (target : Target) (className : String) (m : Method) : List String :=
  match target with
  | .typeScript | .javaScript | .python => [className]
  | .swift | .kotlin => ["remote"]
  | .dart => if m.returns.awaited.isVoid then ["remote"] else ["response", "remote"]
  | .go =>
    (if m.returns.awaited.isVoid then ["callVoid"] else
      "call" :: fragmentNames (Go.typeFragments m.returns.awaited)) ++
    ["c"] ++ (m.params.filter (·.optional)).map fun _ => "optional"

variable {target : Target} {m : Method}

theorem filterMap_wrapper? (target : Target) (params : List Parameter) :
    (target.arguments params).filterMap Argument.wrapper? =
      if target = .go then (params.filter (·.optional)).map fun _ => "optional" else [] := by
  have hlength : params.length ≤ (target.idents params).length := by rw [length_idents]
  have hparams : (target.arguments params).filterMap Argument.wrapper? =
      params.filterMap fun p => if target = .go ∧ p.optional then some "optional" else none := by
    unfold Target.arguments
    conv_rhs => rw [← List.map_fst_zip hlength, List.filterMap_map]
    rw [List.filterMap_map]
    rfl
  rw [hparams]
  by_cases htarget : target = .go
  · rw [if_pos htarget, ← List.filterMap_eq_map, List.filterMap_filter]
    simp only [htarget, true_and]
    rfl
  · simp [htarget]

theorem references_stub (target : Target) (className : String) (m : Method) (exported : String) :
    (target.stub className m exported).references = target.bodyNames className m := by
  unfold Stub.references
  rw [args_stub, filterMap_wrapper?]
  unfold Target.bodyNames Target.stub
  cases target <;> cases hvoid : m.returns.awaited.isVoid <;> simp [hvoid]

/-! ## Captured names -/

theorem captures_iff {className exported x : String} :
    (target.stub className m exported).Captures x ↔
      x ∈ target.bodyNames className m ∧ x ∈ target.idents m.params := by
  unfold Stub.Captures
  rw [references_stub, entries_stub, map_ident_entries]

theorem Go.mem_names_pointerFragments {x : String} {fragments : List Fragment}
    (h : x ∈ fragmentNames (pointerFragments fragments)) : x ∈ fragmentNames fragments := by
  unfold pointerFragments at h
  split at h
  · exact h
  · exact h

theorem Go.keyText_cases (key : DataType) :
    keyText key ∈ reserved ∨ ∃ r ∈ key.references, keyText key = r.name := by
  fun_cases keyText key
  case case4 ref hkind =>
    refine .inr ⟨ref, ?_, rfl⟩
    unfold DataType.references
    exact List.mem_singleton_self ref
  all_goals exact .inl (by decide)

/-- The names in a type are predeclared, the package of times, or names of declared types. -/
theorem Go.mem_names_typeFragments {x : String} {type : DataType} (h : x ∈ fragmentNames (typeFragments type)) :
    x ∈ reserved ∨ x = "time" ∨ ∃ r ∈ type.references, x = r.name := by
  fun_induction typeFragments type
  case case6 => exact absurd h List.not_mem_nil
  case case9 => exact .inr (.inl (List.mem_singleton.mp h))
  case case10 item ih =>
    rw [DataType.references]
    exact ih h
  case case11 key value ih =>
    have hx : x = keyText key ∨ x ∈ fragmentNames (typeFragments value) := List.mem_cons.mp h
    rw [DataType.references]
    rcases hx with rfl | hx
    · rcases keyText_cases key with hreserved | ⟨r, hr, hname⟩
      · exact .inl hreserved
      · exact .inr (.inr ⟨r, List.mem_append_left _ hr, hname⟩)
    · rcases ih hx with hreserved | htime | ⟨r, hr, hname⟩
      · exact .inl hreserved
      · exact .inr (.inl htime)
      · exact .inr (.inr ⟨r, List.mem_append_right _ hr, hname⟩)
  case case12 result ih =>
    rw [DataType.references]
    exact ih h
  case case13 members inner hinner ih =>
    rcases ih (mem_names_pointerFragments h) with hreserved | htime | ⟨r, hr, hname⟩
    · exact .inl hreserved
    · exact .inr (.inl htime)
    · refine .inr (.inr ⟨r, ?_, hname⟩)
      rw [DataType.references]
      exact List.mem_flatMap.mpr ⟨inner, mem_of_nullableInner? hinner, hr⟩
  case case15 ref =>
    refine .inr (.inr ⟨ref, ?_, List.mem_singleton.mp h⟩)
    rw [DataType.references]
    exact List.mem_singleton_self ref
  case case16 fields =>
    have hx : x ∈ ["string", "any"] := h
    exact .inl ((by decide : ["string", "any"] ⊆ reserved) hx)
  -- All other types are predeclared.
  all_goals
    rw [List.mem_singleton.mp h]
    exact .inl (by decide)

/-- The body of a stub in Go refers to words that parameters stay clear of, and to the result type. -/
theorem Go.mem_bodyNames_cases {className x : String} (h : x ∈ Target.go.bodyNames className m) :
    x ∈ bodyNames ∨ x ∈ fragmentNames (typeFragments m.returns.awaited) := by
  unfold Target.bodyNames at h
  rw [List.mem_append, List.mem_append] at h
  rcases h with (hcall | hreceiver) | hwrapped
  · split at hcall
    · rw [List.mem_singleton.mp hcall]
      exact .inl (by decide)
    · rcases List.mem_cons.mp hcall with rfl | hname
      · exact .inl (by decide)
      · exact .inr hname
  · rw [List.mem_singleton.mp hreceiver]
    exact .inl (by decide)
  · obtain ⟨p, -, rfl⟩ := List.mem_map.mp hwrapped
    exact .inl (by decide)

/-- A parameter of this name keeps it as its identifier. -/
def Target.Keeps (target : Target) (x : String) : Prop :=
  sanitized x = x ∧ x ∉ target.avoided

/-- The body of a stub refers to the names in `bodyNames`. A parameter captures one of them only if it is made
into this identifier, and always if it has this very name and keeps it; for names without underscores there is
no other way. So what happens in Swift, Kotlin and Dart is told by the names of the parameters; and in Go only
the names of the result type can be captured. -/
theorem stub_captures_iff (target : Target) (className : String) (m : Method) (exported : String) :
    target.methodLines className m exported = (target.stub className m exported).lines target ∧
      (target.stub className m exported).references = target.bodyNames className m ∧
      (∀ x, (target.stub className m exported).Captures x →
        x ∉ target.avoided ∧ ∃ p ∈ m.params, ∃ n, x = underscored (sanitized p.name) n) ∧
      (∀ x ∈ target.bodyNames className m, x ∈ m.params.map (·.name) → target.Keeps x →
        (target.stub className m exported).Captures x) ∧
      (∀ x ∈ target.bodyNames className m, '_' ∉ x.toList →
        ((target.stub className m exported).Captures x ↔ x ∈ m.params.map (·.name) ∧ target.Keeps x)) ∧
      (target ∈ [.swift, .kotlin] →
        ((∃ x, (target.stub className m exported).Captures x) ↔ "remote" ∈ m.params.map (·.name))) ∧
      (target = .dart →
        ((∃ x, (target.stub className m exported).Captures x) ↔
          "remote" ∈ m.params.map (·.name) ∨
            m.returns.awaited.isVoid = false ∧ "response" ∈ m.params.map (·.name))) ∧
      (target = .go → ∀ x, (target.stub className m exported).Captures x →
        x = "time" ∨ ∃ r ∈ m.returns.awaited.references, x = r.name) := by
  simp only [captures_iff]
  have hmade : ∀ x ∈ target.idents m.params,
      x ∉ target.avoided ∧ ∃ p ∈ m.params, ∃ n, x = underscored (sanitized p.name) n := by
    intro x hx
    obtain ⟨p, hp, havoided, hform, -⟩ := exists_of_mem_forall₂ (idents_forall₂ target m.params) hx
    exact ⟨havoided, p, hp, hform⟩
  -- A name without underscores has not been extended, so that it is that of the parameter.
  have hplain : ∀ x, '_' ∉ x.toList →
      (x ∈ target.idents m.params ↔ x ∈ m.params.map (·.name) ∧ target.Keeps x) :=
    fun x hx => mem_safeIdents_iff hx
  refine ⟨methodLines_eq_lines target className m exported, references_stub target className m exported,
    fun x hx => hmade x hx.2, ?_, ?_, ?_, ?_, ?_⟩
  · intro x hx hname hkeeps
    exact ⟨hx, mem_safeIdents_of_mem hname hkeeps.1 hkeeps.2⟩
  · intro x hx hunder
    rw [hplain x hunder]
    exact and_iff_right hx
  · intro htarget
    have hbody : target.bodyNames className m = ["remote"] := by
      simp only [List.mem_cons, List.not_mem_nil, or_false] at htarget
      rcases htarget with rfl | rfl <;> rfl
    have hkeeps : target.Keeps "remote" := by
      simp only [List.mem_cons, List.not_mem_nil, or_false] at htarget
      rcases htarget with rfl | rfl <;> exact ⟨by decide, by decide⟩
    simp only [hbody, List.mem_singleton, exists_eq_left]
    rw [hplain "remote" (by decide)]
    exact and_iff_left hkeeps
  · rintro rfl
    have hremote : Target.dart.Keeps "remote" := ⟨by decide, by decide⟩
    have hresponse : Target.dart.Keeps "response" := ⟨by decide, by decide⟩
    have hremote := (hplain "remote" (by decide)).trans (and_iff_left hremote)
    have hresponse := (hplain "response" (by decide)).trans (and_iff_left hresponse)
    unfold Target.bodyNames
    cases m.returns.awaited.isVoid with
    | true => simp [hremote]
    | false => simp [hremote, hresponse, or_comm]
  · rintro rfl x ⟨hbody, hident⟩
    have havoided := (hmade x hident).1
    rcases Go.mem_bodyNames_cases hbody with hword | hname
    · exact absurd (List.mem_append_right _ hword) havoided
    · rcases Go.mem_names_typeFragments hname with hreserved | hnamed
      · exact absurd (List.mem_append_left _ hreserved) havoided
      · exact hnamed

/-- A method with one parameter, of the given name. -/
def oneParameter (name : String) (returns : DataType) : Method where
  name := "f"
  params := [⟨name, .string, false, none⟩]
  returns := returns
  exposure := .rpc
  docs := none

/-- In every target some parameter captures a name of the body. -/
theorem stub_captures :
    (Target.typeScript.stub "S" (oneParameter "S" .void) "F").Captures "S" ∧
      (Target.javaScript.stub "S" (oneParameter "S" .void) "F").Captures "S" ∧
      (Target.python.stub "S" (oneParameter "S" .void) "F").Captures "S" ∧
      (Target.swift.stub "S" (oneParameter "remote" .void) "F").Captures "remote" ∧
      (Target.dart.stub "S" (oneParameter "response" .string) "F").Captures "response" ∧
      (Target.kotlin.stub "S" (oneParameter "remote" .void) "F").Captures "remote" ∧
      (Target.go.stub "S" (oneParameter "time" .date) "F").Captures "time" ∧
      ¬∀ (target : Target) (className : String) (m : Method) (exported x : String),
        m.exposure.isCallable → ¬(target.stub className m exported).Captures x := by
  have hremote : (Target.kotlin.stub "S" (oneParameter "remote" .void) "F").Captures "remote" :=
    captures_iff.mpr ⟨by decide, by decide⟩
  have htime : Target.go.bodyNames "S" (oneParameter "time" .date) = ["call", "time", "c"] := by cbv
  refine ⟨captures_iff.mpr ⟨by decide, by decide⟩, captures_iff.mpr ⟨by decide, by decide⟩,
    captures_iff.mpr ⟨by decide, by decide⟩, captures_iff.mpr ⟨by decide, by decide⟩,
    captures_iff.mpr ⟨by decide, by decide⟩, hremote, captures_iff.mpr ⟨by rw [htime]; decide, by decide⟩, ?_⟩
  intro hnone
  exact hnone .kotlin "S" (oneParameter "remote" .void) "F" "remote" rfl hremote

end ServiceStubs
