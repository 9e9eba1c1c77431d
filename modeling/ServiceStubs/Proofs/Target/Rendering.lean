import ServiceStubs.Generate
import ServiceStubs.Proofs.Start

/-!
# What can be rendered

Every target writes every declaration, but for enums that mix kinds of values; and so it writes every file
whose declarations it can write. The one target that has no files for declarations is never asked for one.

* `Declaration.IsMixed` says which enums are refused;
* `enumValueKind_cases` says that the check of enums refuses these and no others, by their names;
* `renderFile_isOk` says that a file can be rendered.
-/

namespace ServiceStubs

/-! ## Kinds of values -/

/-- An enum has a value that is neither a string nor a number, or has both strings and numbers. -/
def Declaration.IsMixed (d : Declaration) : Prop :=
  ∃ cases, d.body = .enumeration cases ∧
    ((∃ c ∈ cases, ∃ value, c.value = .boolean value) ∨ (∃ c ∈ cases, c.value = .null) ∨
      ((∃ c ∈ cases, ∃ text, c.value = .string text) ∧ ∃ c ∈ cases, ∃ text, c.value = .number text))

/-- All cases have values of one kind, which is that of the cases before if there are any. -/
def HaveKind (seen : Option EnumValueKind) (cases : List EnumCase) (kind : EnumValueKind) : Prop :=
  (∀ c ∈ cases, c.value.enumValueKind? = some kind) ∧ ∀ before, seen = some before → before = kind

/-- The cases of an enum share a kind, or the enum is refused by its name. -/
theorem casesKind_cases (name : String) (seen : Option EnumValueKind) (cases : List EnumCase) :
    ((∃ kind, HaveKind seen cases kind) ∧ ∃ kind, casesKind name seen cases = .ok kind) ∨
      ((∀ kind, ¬HaveKind seen cases kind) ∧ casesKind name seen cases = .error (.mixedEnum name)) := by
  induction cases generalizing seen with
  | nil => exact .inl ⟨⟨seen.getD .number, by simp, by rintro before rfl; rfl⟩, _, rfl⟩
  | cons c rest ih =>
    -- The kind of the first case is seen by all later ones.
    have hcons : ∀ kind, c.value.enumValueKind? = some kind → (∀ before, seen = some before → before = kind) →
        ∀ kind', HaveKind seen (c :: rest) kind' ↔ HaveKind (some kind) rest kind' := by
      intro kind hc hseen kind'
      unfold HaveKind
      rw [List.forall_mem_cons, hc]
      constructor
      · rintro ⟨⟨hkind, hrest⟩, -⟩
        exact ⟨hrest, fun before hbefore => by rw [← Option.some.inj hbefore, Option.some.inj hkind]⟩
      · rintro ⟨hrest, hbefore⟩
        obtain rfl := hbefore kind rfl
        exact ⟨⟨rfl, hrest⟩, hseen⟩
    unfold casesKind
    rcases hc : c.value.enumValueKind? with _ | kind
    · refine .inr ⟨?_, rfl⟩
      rintro kind ⟨hall, -⟩
      rw [hall c List.mem_cons_self] at hc
      cases hc
    · cases seen with
      | none =>
        dsimp only
        simp only [hcons kind hc (by simp)]
        exact ih (some kind)
      | some before =>
        dsimp only
        split
        · rename_i heq
          subst heq
          simp only [hcons kind hc (by rintro _ ⟨⟩; rfl)]
          exact ih (some kind)
        · rename_i hne
          refine .inr ⟨?_, rfl⟩
          rintro kind' ⟨hall, hseen⟩
          rw [hall c List.mem_cons_self] at hc
          exact hne ((Option.some.inj hc).symm.trans (hseen before rfl).symm)

/-- Values of one kind are not mixed, and mixed ones have no kind. -/
theorem haveKind_iff {cases : List EnumCase} :
    (∃ kind, HaveKind none cases kind) ↔
      ¬((∃ c ∈ cases, ∃ value, c.value = .boolean value) ∨ (∃ c ∈ cases, c.value = .null) ∨
        ((∃ c ∈ cases, ∃ text, c.value = .string text) ∧ ∃ c ∈ cases, ∃ text, c.value = .number text)) := by
  unfold HaveKind
  constructor
  · rintro ⟨kind, hall, -⟩
    rintro (⟨c, hc, value, hvalue⟩ | ⟨c, hc, hvalue⟩ | ⟨⟨c, hc, text, hvalue⟩, c', hc', text', hvalue'⟩)
    · have h := hall c hc
      rw [hvalue] at h
      cases h
    · have h := hall c hc
      rw [hvalue] at h
      cases h
    · have h := hall c hc
      have h' := hall c' hc'
      rw [hvalue] at h
      rw [hvalue'] at h'
      exact absurd (Option.some.inj (h.trans h'.symm)) (by decide)
  · intro hmixed
    simp only [not_or, not_exists, not_and] at hmixed
    obtain ⟨hboolean, hnull, hboth⟩ := hmixed
    -- One string decides the kind; without strings all values are numbers.
    by_cases hstring : ∃ c ∈ cases, ∃ text, c.value = .string text
    · refine ⟨.string, ?_, by simp⟩
      intro c hc
      cases hvalue : c.value with
      | string value => rfl
      | number value => exact absurd hvalue (hboth hstring c hc value)
      | boolean value => exact absurd hvalue (hboolean c hc value)
      | null => exact absurd hvalue (hnull c hc)
    · refine ⟨.number, ?_, by simp⟩
      intro c hc
      cases hvalue : c.value with
      | string value => exact absurd ⟨c, hc, value, hvalue⟩ hstring
      | number value => rfl
      | boolean value => exact absurd hvalue (hboolean c hc value)
      | null => exact absurd hvalue (hnull c hc)

/-- A declaration passes the check of enums unless it is mixed; then it is refused by its name. -/
theorem enumValueKind_cases (d : Declaration) :
    (¬d.IsMixed ∧ ∃ kind, d.enumValueKind = .ok kind) ∨
      (d.IsMixed ∧ d.enumValueKind = .error (.mixedEnum d.name)) := by
  obtain ⟨name, modulePath, body, docs⟩ := d
  match body with
  | .enumeration cases =>
    have hmixed : Declaration.IsMixed ⟨name, modulePath, .enumeration cases, docs⟩ ↔
        ¬∃ kind, HaveKind none cases kind := by
      rw [haveKind_iff, Classical.not_not]
      unfold Declaration.IsMixed
      simp
    rw [hmixed, Classical.not_not]
    rcases casesKind_cases name none cases with ⟨hkind, kind, hok⟩ | ⟨hnone, herror⟩
    · exact .inl ⟨hkind, some kind, congrArg (Except.map some) hok⟩
    · exact .inr ⟨fun ⟨kind, hkind⟩ => hnone kind hkind, congrArg (Except.map some) herror⟩
  | .alias type => exact .inl ⟨by simp [Declaration.IsMixed], _, rfl⟩
  | .record fields => exact .inl ⟨by simp [Declaration.IsMixed], _, rfl⟩

/-! ## Texts -/

variable {α β ε : Type}

/-- What succeeds for every member of a list succeeds for the list, member by member. -/
theorem mapM_eq_ok {f : α → Except ε β} {xs : List α} (h : ∀ x ∈ xs, ∃ y, f x = .ok y) :
    ∃ ys, xs.mapM f = .ok ys := by
  induction xs with
  | nil => exact ⟨[], rfl⟩
  | cons x rest ih =>
    obtain ⟨y, hy⟩ := h x List.mem_cons_self
    obtain ⟨ys, hys⟩ := ih fun x' hx' => h x' (List.mem_cons_of_mem x hx')
    refine ⟨y :: ys, ?_⟩
    rw [List.mapM_cons, hy, hys]
    rfl

/-- Every target writes a declaration that passes the check of enums. -/
theorem declarationText_isOk (target : Target) {d : Declaration} (h : ¬d.IsMixed) :
    ∃ text, target.emitter.declarationText d = .ok text := by
  obtain ⟨hmixed, -⟩ | ⟨-, kind, hkind⟩ := (enumValueKind_cases d).symm
  · exact absurd hmixed h
  · obtain ⟨name, modulePath, body, docs⟩ := d
    match body with
    | .enumeration cases =>
      obtain ⟨kind', hcases, -⟩ := map_eq_ok_iff.mp hkind
      cases target with
      | typeScript => exact ⟨_, map_eq_ok_iff.mpr ⟨_, map_eq_ok_iff.mpr ⟨kind, hkind, rfl⟩, rfl⟩⟩
      | javaScript => exact ⟨_, bind_eq_ok_iff.mpr ⟨_, map_eq_ok_iff.mpr ⟨kind, hkind, rfl⟩, rfl⟩⟩
      | _ => exact ⟨_, map_eq_ok_iff.mpr ⟨_, map_eq_ok_iff.mpr ⟨kind', hcases, rfl⟩, rfl⟩⟩
    | .alias type => cases target <;> exact ⟨_, rfl⟩
    | .record fields => cases target <;> exact ⟨_, rfl⟩

/-- The declarations whose texts stand in a file: those that it owns, or in clients of the one target
without files for declarations those that the client reaches. -/
def Target.shownDeclarations (target : Target) (file : FilePlan) : List Declaration :=
  match target, file.service with
  | .javaScript, some s => s.reachableDeclarations
  | _, _ => file.declarations

/-- A file can be rendered if its declarations pass the check of enums, and its target has such files. -/
theorem renderFile_isOk (target : Target) (m : Metadata) {file : FilePlan}
    (hkind : target.emitter.emitsDeclarations ∨ file.service.isSome)
    (h : ∀ d ∈ target.shownDeclarations file, ¬d.IsMixed) :
    ∃ f, renderFile target.emitter m file = .ok f := by
  -- Every file is its declarations, one after the other, in a frame that cannot fail.
  obtain ⟨texts, htexts⟩ := mapM_eq_ok fun d hd => declarationText_isOk target (h d hd)
  unfold renderFile
  cases hservice : file.service with
  | none =>
    have hmodel : ∃ text, target.emitter.modelText file m = .ok text := by
      cases target with
      | javaScript => simp [hservice, Target.emitter, JavaScript.emitter] at hkind
      | _ => exact ⟨_, bind_eq_ok_iff.mpr ⟨texts, htexts, rfl⟩⟩
    obtain ⟨text, htext⟩ := hmodel
    exact ⟨_, map_eq_ok_iff.mpr ⟨text, htext, rfl⟩⟩
  | some s =>
    have hclient : ∃ text, target.emitter.clientText s file m = .ok text := by
      cases target with
      | javaScript =>
        simp only [Target.shownDeclarations, hservice] at htexts
        exact ⟨_, bind_eq_ok_iff.mpr ⟨texts, htexts, rfl⟩⟩
      | _ => exact ⟨_, bind_eq_ok_iff.mpr ⟨texts, htexts, rfl⟩⟩
    obtain ⟨text, htext⟩ := hclient
    exact ⟨_, map_eq_ok_iff.mpr ⟨text, htext, rfl⟩⟩

end ServiceStubs
