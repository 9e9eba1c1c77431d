import ServiceStubs.Proofs.InPlace

/-!
# Visitors of references

A visitor is handed one reference after the other and may keep something in mind from one to the next. This module
describes the walk that leads it through a type or a declaration, and ties the walk to what else is known of references:
the visitor meets those that are listed, in the order in which they are listed, and nothing but references is changed.

* `DataType.visitReferences` and `Declaration.visitReferences` are the walks;
* `DataType.references_visitReferences` and its companion say which references are met, and what becomes of them;
* `DataType.sameUpTo_visitReferences` and its companion say that everything else stays as it is;
* `DataType.visitReferences_pure` and its companion say that `mapReferences` is the walk of a visitor that keeps
  nothing in mind;
* `mapReferences_walksInPlace` puts this together for types and declarations alike.
-/

namespace ServiceStubs

variable {m : Type → Type} [Monad m] {σ α : Type}

/-! ## Walks -/

/-- The type in which a visitor has replaced every reference, on its way from left to right. -/
def DataType.visitReferences (f : TypeRef → m TypeRef) : DataType → m DataType
  | .array item => return .array (← item.visitReferences f)
  | .map key value => return .map (← key.visitReferences f) (← value.visitReferences f)
  | .promise result => return .promise (← result.visitReferences f)
  | .union members => return .union (← members.attach.mapM fun ⟨t, _⟩ => t.visitReferences f)
  | .named ref => return .named (← f ref)
  | .record fields =>
    return .record (← fields.attach.mapM fun ⟨field, _⟩ =>
      return ⟨field.name, field.optional, ← field.type.visitReferences f⟩)
  | .string => return .string
  | .integer => return .integer
  | .double => return .double
  | .float => return .float
  | .boolean => return .boolean
  | .void => return .void
  | .null => return .null
  | .any => return .any
  | .date => return .date
termination_by t => sizeOf t
decreasing_by
  all_goals first | decreasing_tactic | exact Field.sizeOf_type_lt_of_mem ‹_ ∈ _›

/-- The property in whose type a visitor has replaced every reference. -/
def Field.visitReferences (f : TypeRef → m TypeRef) (field : Field) : m Field :=
  return ⟨field.name, field.optional, ← field.type.visitReferences f⟩

/-- The declaration in whose body a visitor has replaced every reference. -/
def Declaration.visitReferences (f : TypeRef → m TypeRef) (d : Declaration) : m Declaration :=
  match d.body with
  | .enumeration _ => return d
  | .alias type => return { d with body := .alias (← type.visitReferences f) }
  | .record fields => return { d with body := .record (← fields.mapM (Field.visitReferences f)) }

section Lawful

variable [LawfulMonad m] {f : TypeRef → m TypeRef}

theorem DataType.visitReferences_union (members : List DataType) :
    (DataType.union members).visitReferences f = .union <$> members.mapM (DataType.visitReferences f) := by
  rw [DataType.visitReferences, List.mapM_subtype fun t _ => rfl, List.unattach_attach, bind_pure_comp]

theorem DataType.visitReferences_record (fields : List Field) :
    (DataType.record fields).visitReferences f = .record <$> fields.mapM (Field.visitReferences f) := by
  rw [DataType.visitReferences, List.mapM_subtype (g := Field.visitReferences f) fun field _ => rfl,
    List.unattach_attach, bind_pure_comp]

/-! ## References that are met -/

/-- Where the visitor meets what every part lists, it meets what the whole lists. -/
theorem flatMap_map_mapM (references : α → List TypeRef) (visit : α → m α) {parts : List α}
    (h : ∀ a ∈ parts, references <$> visit a = (references a).mapM f) :
    List.flatMap references <$> parts.mapM visit = (parts.flatMap references).mapM f := by
  induction parts with
  | nil => simp
  | cons a rest ih =>
    rw [List.forall_mem_cons] at h
    rw [List.flatMap_cons, List.mapM_append, List.mapM_cons, ← h.1, ← ih h.2]
    simp

/-- The references of a property are those of its type. -/
theorem Field.references_visitReferences (field : Field) :
    (fun visited : Field => visited.type.references) <$> field.visitReferences f =
      DataType.references <$> field.type.visitReferences f := by
  rw [Field.visitReferences, bind_pure_comp, Functor.map_map]

theorem DataType.references_visitReferences (t : DataType) :
    DataType.references <$> t.visitReferences f = t.references.mapM f := by
  induction t using DataType.visitReferences.induct with
  | case1 item ih =>
    simpa only [DataType.visitReferences, bind_pure_comp, Functor.map_map, DataType.references] using ih
  | case2 key value ihkey ihvalue =>
    rw [DataType.references, List.mapM_append, ← ihkey, ← ihvalue]
    simp [DataType.visitReferences, DataType.references]
  | case3 result ih =>
    simpa only [DataType.visitReferences, bind_pure_comp, Functor.map_map, DataType.references] using ih
  | case4 members ih =>
    rw [DataType.visitReferences_union, Functor.map_map]
    simpa only [DataType.references] using flatMap_map_mapM DataType.references _ ih
  | case5 ref => simp [DataType.visitReferences, DataType.references]
  | case6 fields ih =>
    rw [DataType.visitReferences_record, Functor.map_map]
    simpa only [DataType.references] using flatMap_map_mapM (fun field : Field => field.type.references) _
      fun field hfield => field.references_visitReferences.trans (ih field hfield)
  | _ => simp only [DataType.visitReferences, map_pure, DataType.references, List.mapM_nil]

theorem Declaration.references_visitReferences (d : Declaration) :
    Declaration.references <$> d.visitReferences f = d.references.mapM f := by
  obtain ⟨name, modulePath, body, docs⟩ := d
  match body with
  | .enumeration cases => simp [Declaration.visitReferences, Declaration.references]
  | .alias type =>
    simpa only [Declaration.visitReferences, bind_pure_comp, Functor.map_map, Declaration.references] using
      type.references_visitReferences
  | .record fields =>
    simpa only [Declaration.visitReferences, bind_pure_comp, Functor.map_map, Declaration.references] using
      flatMap_map_mapM (fun field : Field => field.type.references) _ fun field _ =>
        field.references_visitReferences.trans field.type.references_visitReferences

/-! ## Visitors that keep nothing in mind -/

/-- What is done to every part without an effect is done to the whole without one. -/
theorem mapM_eq_pure {visit : α → m α} {change : α → α} {parts : List α}
    (h : ∀ a ∈ parts, visit a = pure (change a)) : parts.mapM visit = pure (parts.map change) := by
  induction parts with
  | nil => simp
  | cons a rest ih =>
    rw [List.forall_mem_cons] at h
    rw [List.mapM_cons, h.1, ih h.2]
    simp

theorem DataType.visitReferences_pure (f : TypeRef → TypeRef) (t : DataType) :
    t.visitReferences (fun r => (pure (f r) : m TypeRef)) = pure (t.mapReferences f) := by
  induction t using DataType.visitReferences.induct with
  | case1 item ih => simp only [DataType.visitReferences, ih, pure_bind, DataType.mapReferences]
  | case2 key value ihkey ihvalue =>
    simp only [DataType.visitReferences, ihkey, ihvalue, pure_bind, DataType.mapReferences]
  | case3 result ih => simp only [DataType.visitReferences, ih, pure_bind, DataType.mapReferences]
  | case4 members ih => rw [DataType.visitReferences_union, mapM_eq_pure ih, map_pure, DataType.mapReferences]
  | case5 ref => simp only [DataType.visitReferences, pure_bind, DataType.mapReferences]
  | case6 fields ih =>
    rw [DataType.visitReferences_record, mapM_eq_pure fun field hfield => ?_, map_pure, DataType.mapReferences]
    rw [Field.visitReferences, ih field hfield, pure_bind]
  | _ => simp only [DataType.visitReferences, DataType.mapReferences]

theorem Declaration.visitReferences_pure (f : TypeRef → TypeRef) (d : Declaration) :
    d.visitReferences (fun r => (pure (f r) : m TypeRef)) = pure (d.mapReferences f) := by
  obtain ⟨name, modulePath, body, docs⟩ := d
  match body with
  | .enumeration cases => rfl
  | .alias type =>
    simp only [Declaration.visitReferences, DataType.visitReferences_pure, pure_bind, Declaration.mapReferences]
  | .record fields =>
    simp only [Declaration.visitReferences, Declaration.mapReferences]
    rw [mapM_eq_pure fun field _ => ?_, pure_bind]
    rw [Field.visitReferences, DataType.visitReferences_pure, pure_bind]

end Lawful

/-! ## Everything else -/

section Stateful

variable {f : TypeRef → StateM σ TypeRef}

/-- Parts that are related to what becomes of them, whatever the visitor has in mind, are related place by place. -/
theorem forall₂_run_mapM {R : α → α → Prop} {visit : α → StateM σ α} {parts : List α}
    (h : ∀ a ∈ parts, ∀ s, R a ((visit a).run s).1) (s : σ) : List.Forall₂ R parts ((parts.mapM visit).run s).1 := by
  induction parts generalizing s with
  | nil => exact .nil
  | cons a rest ih =>
    rw [List.forall_mem_cons] at h
    rw [List.mapM_cons]
    exact .cons (h.1 s) (ih h.2 _)

/-- References may become any others, so that what is said is that nothing but references changes. -/
theorem DataType.sameUpTo_visitReferences (t : DataType) (s : σ) :
    t.SameUpTo (fun _ _ => True) ((t.visitReferences f).run s).1 := by
  -- The parts are visited one after the other, each with what the visitor keeps in mind by then.
  induction t using DataType.visitReferences.induct generalizing s with
  | case1 item ih =>
    rw [DataType.visitReferences]
    exact .array (ih s)
  | case2 key value ihkey ihvalue =>
    rw [DataType.visitReferences]
    exact .map (ihkey s) (ihvalue _)
  | case3 result ih =>
    rw [DataType.visitReferences]
    exact .promise (ih s)
  | case4 members ih =>
    rw [DataType.visitReferences_union]
    exact .union (forall₂_run_mapM ih s)
  | case5 ref =>
    rw [DataType.visitReferences]
    exact .named trivial
  | case6 fields ih =>
    rw [DataType.visitReferences_record]
    exact .record (forall₂_run_mapM (fun field hfield s => .mk rfl rfl (ih field hfield s)) s)
  | case7 => rw [DataType.visitReferences]; exact .string
  | case8 => rw [DataType.visitReferences]; exact .integer
  | case9 => rw [DataType.visitReferences]; exact .double
  | case10 => rw [DataType.visitReferences]; exact .float
  | case11 => rw [DataType.visitReferences]; exact .boolean
  | case12 => rw [DataType.visitReferences]; exact .void
  | case13 => rw [DataType.visitReferences]; exact .null
  | case14 => rw [DataType.visitReferences]; exact .any
  | case15 => rw [DataType.visitReferences]; exact .date

theorem Declaration.sameUpTo_visitReferences (d : Declaration) (s : σ) :
    d.SameUpTo (fun _ _ => True) ((d.visitReferences f).run s).1 := by
  obtain ⟨name, modulePath, body, docs⟩ := d
  match body with
  | .enumeration cases => exact ⟨rfl, .enumeration cases, rfl⟩
  | .alias type => exact ⟨rfl, .alias (type.sameUpTo_visitReferences s), rfl⟩
  | .record fields =>
    refine ⟨rfl, .record (forall₂_run_mapM (fun field _ s => .mk rfl rfl ?_) s), rfl⟩
    exact field.type.sameUpTo_visitReferences s

theorem Declaration.key_visitReferences (d : Declaration) (s : σ) : ((d.visitReferences f).run s).1.key = d.key := by
  obtain ⟨name, modulePath, body, docs⟩ := d
  match body with
  | .enumeration cases => rfl
  | .alias type => rfl
  | .record fields => rfl

end Stateful

/-! ## Visits and changes -/

theorem Declaration.key_mapReferences (f : TypeRef → TypeRef) (d : Declaration) : (d.mapReferences f).key = d.key := by
  unfold Declaration.mapReferences
  split <;> rfl

/-- A change of references shows on all the references that are listed. -/
theorem map_references_eq_iff {references : α → List TypeRef} {change : (TypeRef → TypeRef) → α → α}
    (hreferences : ∀ f a, references (change f a) = (references a).map f)
    (hcongr : ∀ f g a, (∀ r ∈ references a, f r = g r) → change f a = change g a) (f g : TypeRef → TypeRef) (a : α) :
    change f a = change g a ↔ ∀ r ∈ references a, f r = g r := by
  constructor
  · intro heq
    have hmap : (references a).map f = (references a).map g := by rw [← hreferences, ← hreferences, heq]
    exact List.map_inj_left.mp hmap
  · exact hcongr f g a

/-- The references of something are visited one after another in the order in which they are listed, each of them is
replaced by what the visitor returns, and nothing else is changed. A change of references by a function is the visit of
one that keeps nothing in mind. -/
structure WalksInPlace (references : α → List TypeRef) (SameUpTo : (TypeRef → TypeRef → Prop) → α → α → Prop)
    (visit : (σ : Type) → (TypeRef → StateM σ TypeRef) → α → StateM σ α) (change : (TypeRef → TypeRef) → α → α) :
    Prop where
  /-- The visitor is called on the references that are listed, in their order; those listed afterwards are what it
  returned, and it has in mind what it has after these calls. -/
  references_visit : ∀ (σ : Type) (f : TypeRef → StateM σ TypeRef) (a : α),
    references <$> visit σ f a = (references a).mapM f
  /-- Apart from references all is as before. -/
  sameUpTo_visit : ∀ (σ : Type) (f : TypeRef → StateM σ TypeRef) (a : α) (s : σ),
    SameUpTo (fun _ _ => True) a ((visit σ f a).run s).1
  visit_pure : ∀ (σ : Type) (f : TypeRef → TypeRef) (a : α), visit σ (fun r => pure (f r)) a = pure (change f a)
  references_change : ∀ (f : TypeRef → TypeRef) (a : α), references (change f a) = (references a).map f
  sameUpTo_change : ∀ (f : TypeRef → TypeRef) (a : α), SameUpTo (fun r r' => r' = f r) a (change f a)
  /-- No reference is passed over, and no other is looked at. -/
  change_eq_iff : ∀ (f g : TypeRef → TypeRef) (a : α), change f a = change g a ↔ ∀ r ∈ references a, f r = g r
  change_id : ∀ a : α, change id a = a

theorem mapReferences_walksInPlace :
    WalksInPlace DataType.references DataType.SameUpTo (fun _ => DataType.visitReferences) DataType.mapReferences ∧
      WalksInPlace Declaration.references (fun R d d' => d'.key = d.key ∧ d.SameUpTo R d')
        (fun _ => Declaration.visitReferences) Declaration.mapReferences := by
  constructor
  · exact {
      references_visit := fun _ _ t => t.references_visitReferences
      sameUpTo_visit := fun _ _ t s => t.sameUpTo_visitReferences s
      visit_pure := fun _ f t => t.visitReferences_pure f
      references_change := DataType.references_mapReferences
      sameUpTo_change := fun f t => t.sameUpTo_mapReferences fun _ _ => rfl
      change_eq_iff := map_references_eq_iff DataType.references_mapReferences fun _ _ t => t.mapReferences_congr
      change_id := DataType.mapReferences_id }
  · exact {
      references_visit := fun _ _ d => d.references_visitReferences
      sameUpTo_visit := fun _ _ d s => ⟨d.key_visitReferences s, d.sameUpTo_visitReferences s⟩
      visit_pure := fun _ f d => d.visitReferences_pure f
      references_change := Declaration.references_mapReferences
      sameUpTo_change := fun f d => ⟨d.key_mapReferences f, d.sameUpTo_mapReferences fun _ _ => rfl⟩
      change_eq_iff :=
        map_references_eq_iff Declaration.references_mapReferences fun _ _ d => d.mapReferences_congr
      change_id := Declaration.mapReferences_id }

/-- Containers of every kind are walked through. -/
example :
    let user : DataType := .named ⟨"User", "src/models", .record⟩
    let role : DataType := .named ⟨"Role", "src/models", .enumeration⟩
    let nested := DataType.map .string (.union [.array user, .record [⟨"role", false, role⟩]])
    (nested.mapReferences fun r => { r with name := "Models" ++ r.name }).references.map (·.name) =
      ["ModelsUser", "ModelsRole"] := by
  cbv

end ServiceStubs
