import Mathlib.Data.List.Basic
import ServiceStubs.Service

/-!
# References of changed types

A change of references is made in place: what mentioned a list of references mentions the changed ones
afterwards, in the same order, and nothing else.

* `DataType.references_mapReferences` says so of types;
* `Declaration.references_mapReferences` and `Method.references_mapReferences` lift it to what is made of
  types;
* `DataType.mapReferences_id` and its companions say that no change of references is no change at all;
* `DataType.mapReferences_congr` and its companions say that only the references that are there count.
-/

namespace ServiceStubs

variable {α : Type} (f : TypeRef → TypeRef)

/-- Where every part mentions the changed references, so does the whole. -/
theorem flatMap_map_references (references : α → List TypeRef) (change : α → α) {parts : List α}
    (h : ∀ a ∈ parts, references (change a) = (references a).map f) :
    (parts.map change).flatMap references = (parts.flatMap references).map f := by
  rw [List.flatMap_map, List.map_flatMap]
  exact List.flatMap_congr h

theorem DataType.references_mapReferences (t : DataType) :
    (t.mapReferences f).references = t.references.map f := by
  fun_induction DataType.mapReferences f t with
  | case1 item ih => simpa only [DataType.references] using ih
  | case2 key value ihkey ihvalue =>
    simp only [DataType.references, ihkey, ihvalue, List.map_append]
  | case3 result ih => simpa only [DataType.references] using ih
  | case4 members ih =>
    simp only [DataType.references]
    exact flatMap_map_references f DataType.references (DataType.mapReferences f) ih
  | case5 ref => simp only [DataType.references, List.map_cons, List.map_nil]
  | case6 fields ih =>
    simp only [DataType.references]
    exact flatMap_map_references f (fun field : Field => field.type.references) _ ih
  | _ => simp only [DataType.references, List.map_nil]

theorem Declaration.references_mapReferences (d : Declaration) :
    (d.mapReferences f).references = d.references.map f := by
  obtain ⟨name, modulePath, body, docs⟩ := d
  match body with
  | .enumeration cases => rfl
  | .alias type => exact DataType.references_mapReferences f type
  | .record fields =>
    exact flatMap_map_references f (fun field : Field => field.type.references) _ fun field _ =>
      DataType.references_mapReferences f field.type

theorem Method.references_mapReferences (m : Method) :
    (m.mapReferences f).references = m.references.map f := by
  have hparams : (m.params.map fun p => { p with type := p.type.mapReferences f }).flatMap
        (fun p => p.type.references) = (m.params.flatMap fun p => p.type.references).map f :=
    flatMap_map_references f (fun p : Parameter => p.type.references) _ fun p _ =>
      DataType.references_mapReferences f p.type
  unfold Method.references Method.mapReferences
  rw [hparams, DataType.references_mapReferences, List.map_append]

/-! ## No change -/

theorem map_eq_self {change : α → α} {parts : List α} (h : ∀ a ∈ parts, change a = a) :
    parts.map change = parts :=
  (List.map_congr_left h).trans (List.map_id' parts)

/-- A field whose type does not change does not change. -/
theorem Field.eq_self {field : Field} {type : DataType} (h : type = field.type) :
    (⟨field.name, field.optional, type⟩ : Field) = field := by
  subst h
  cases field
  rfl

theorem DataType.mapReferences_id (t : DataType) : t.mapReferences id = t := by
  fun_induction DataType.mapReferences id t with
  | case1 item ih => rw [ih]
  | case2 key value ihkey ihvalue => rw [ihkey, ihvalue]
  | case3 result ih => rw [ih]
  | case4 members ih => rw [map_eq_self ih]
  | case5 ref => rfl
  | case6 fields ih => rw [map_eq_self fun field hfield => Field.eq_self (ih field hfield)]
  | _ => rfl

theorem Declaration.mapReferences_id (d : Declaration) : d.mapReferences id = d := by
  obtain ⟨name, modulePath, body, docs⟩ := d
  match body with
  | .enumeration cases => rfl
  | .alias type => simp only [Declaration.mapReferences, DataType.mapReferences_id]
  | .record fields =>
    simp only [Declaration.mapReferences]
    rw [map_eq_self fun field _ => Field.eq_self (DataType.mapReferences_id field.type)]

theorem Method.mapReferences_id (m : Method) : m.mapReferences id = m := by
  simp only [Method.mapReferences, DataType.mapReferences_id, List.map_id']

/-! ## Equal changes -/

variable {f} {g : TypeRef → TypeRef}

/-- Fields stay alike where their types do. -/
theorem fields_congr {fields : List Field}
    (h : ∀ field ∈ fields, field.type.mapReferences f = field.type.mapReferences g) :
    (fields.map fun field : Field => (⟨field.name, field.optional, field.type.mapReferences f⟩ : Field)) =
      fields.map fun field => ⟨field.name, field.optional, field.type.mapReferences g⟩ :=
  List.map_congr_left fun field hfield => by rw [h field hfield]

/-- Only the references that a type has decide what a change makes of it. -/
theorem DataType.mapReferences_congr (t : DataType) (h : ∀ r ∈ t.references, f r = g r) :
    t.mapReferences f = t.mapReferences g := by
  fun_induction DataType.mapReferences f t with
  | case1 item ih =>
    simp only [DataType.references] at h
    rw [DataType.mapReferences, ih h]
  | case2 key value ihkey ihvalue =>
    simp only [DataType.references, List.mem_append] at h
    have hkey := ihkey fun r hr => h r (.inl hr)
    have hvalue := ihvalue fun r hr => h r (.inr hr)
    rw [DataType.mapReferences, hkey, hvalue]
  | case3 result ih =>
    simp only [DataType.references] at h
    rw [DataType.mapReferences, ih h]
  | case4 members ih =>
    simp only [DataType.references] at h
    have hmembers : members.map (fun m => m.mapReferences f) = members.map fun m => m.mapReferences g :=
      List.map_congr_left fun m hm => ih m hm fun r hr => h r (List.mem_flatMap.mpr ⟨m, hm, hr⟩)
    rw [DataType.mapReferences, hmembers]
  | case5 ref =>
    simp only [DataType.references, List.mem_singleton] at h
    rw [DataType.mapReferences, h ref rfl]
  | case6 fields ih =>
    simp only [DataType.references] at h
    have hfields := fields_congr fun field hfield =>
      ih field hfield fun r hr => h r (List.mem_flatMap.mpr ⟨field, hfield, hr⟩)
    rw [DataType.mapReferences, hfields]
  | _ => rw [DataType.mapReferences]

theorem Declaration.mapReferences_congr (d : Declaration) (h : ∀ r ∈ d.references, f r = g r) :
    d.mapReferences f = d.mapReferences g := by
  obtain ⟨name, modulePath, body, docs⟩ := d
  match body with
  | .enumeration cases => rfl
  | .alias type =>
    have htype := DataType.mapReferences_congr type h
    simp only [Declaration.mapReferences, htype]
  | .record fields =>
    have hfields := fields_congr fun field hfield =>
      DataType.mapReferences_congr field.type fun r hr => h r (List.mem_flatMap.mpr ⟨field, hfield, hr⟩)
    simp only [Declaration.mapReferences, hfields]

theorem Method.mapReferences_congr (m : Method) (h : ∀ r ∈ m.references, f r = g r) :
    m.mapReferences f = m.mapReferences g := by
  have hparams : (m.params.map fun p => { p with type := p.type.mapReferences f }) =
      m.params.map fun p => { p with type := p.type.mapReferences g } :=
    List.map_congr_left fun p hp => by
      rw [DataType.mapReferences_congr p.type fun r hr =>
        h r (List.mem_append_left _ (List.mem_flatMap.mpr ⟨p, hp, hr⟩))]
  have hreturns := DataType.mapReferences_congr m.returns fun r hr => h r (List.mem_append_right _ hr)
  unfold Method.mapReferences
  rw [hparams, hreturns]

end ServiceStubs
