import Mathlib.Data.List.Forall2
import ServiceStubs.Proofs.References

/-!
# Changes in place

A change of references leaves the types that they stand in as they are. The relations of this module say so part by
part, without a word about how the change is made: two types are the same up to their references if they are put
together in the same way, with references in the same places.

* `DataType.SameUpTo` compares types, and `Declaration.SameUpTo` and `Method.SameUpTo` what is made of types;
* `DataType.sameUpTo_mapReferences` and its companions say that `mapReferences` changes nothing but references, each
  of them in its place.
-/

namespace ServiceStubs

/-! ## Types -/

mutual

/-- Two types that differ in their references only. References in the same place are related. -/
inductive DataType.SameUpTo (R : TypeRef → TypeRef → Prop) : DataType → DataType → Prop where
  | string : DataType.SameUpTo R .string .string
  | integer : DataType.SameUpTo R .integer .integer
  | double : DataType.SameUpTo R .double .double
  | float : DataType.SameUpTo R .float .float
  | boolean : DataType.SameUpTo R .boolean .boolean
  | void : DataType.SameUpTo R .void .void
  | null : DataType.SameUpTo R .null .null
  | any : DataType.SameUpTo R .any .any
  | date : DataType.SameUpTo R .date .date
  | array {item item' : DataType} (h : DataType.SameUpTo R item item') :
      DataType.SameUpTo R (.array item) (.array item')
  | map {key key' value value' : DataType} (hkey : DataType.SameUpTo R key key')
      (hvalue : DataType.SameUpTo R value value') :
      DataType.SameUpTo R (.map key value) (.map key' value')
  | promise {result result' : DataType} (h : DataType.SameUpTo R result result') :
      DataType.SameUpTo R (.promise result) (.promise result')
  | union {members members' : List DataType} (h : List.Forall₂ (DataType.SameUpTo R) members members') :
      DataType.SameUpTo R (.union members) (.union members')
  | named {ref ref' : TypeRef} (h : R ref ref') : DataType.SameUpTo R (.named ref) (.named ref')
  | record {fields fields' : List Field} (h : List.Forall₂ (Field.SameUpTo R) fields fields') :
      DataType.SameUpTo R (.record fields) (.record fields')

/-- Two properties with one name that are both optional or both required, and whose types differ in references only. -/
inductive Field.SameUpTo (R : TypeRef → TypeRef → Prop) : Field → Field → Prop where
  | mk {field field' : Field} (hname : field'.name = field.name) (hoptional : field'.optional = field.optional)
      (htype : DataType.SameUpTo R field.type field'.type) : Field.SameUpTo R field field'

end

/-- What stands in a list is related to what becomes of it. -/
theorem forall₂_map_self {α : Type} {S : α → α → Prop} {change : α → α} {parts : List α}
    (h : ∀ a ∈ parts, S a (change a)) : List.Forall₂ S parts (parts.map change) :=
  List.forall₂_map_right_iff.mpr (List.forall₂_same.mpr h)

variable {R : TypeRef → TypeRef → Prop} {f : TypeRef → TypeRef}

theorem DataType.sameUpTo_mapReferences (t : DataType) (h : ∀ r ∈ t.references, R r (f r)) :
    t.SameUpTo R (t.mapReferences f) := by
  fun_induction DataType.mapReferences f t with
  | case1 item ih =>
    rw [DataType.references] at h
    exact .array (ih h)
  | case2 key value ihkey ihvalue =>
    rw [DataType.references, List.forall_mem_append] at h
    exact .map (ihkey h.1) (ihvalue h.2)
  | case3 result ih =>
    rw [DataType.references] at h
    exact .promise (ih h)
  | case4 members ih =>
    rw [DataType.references] at h
    exact .union (forall₂_map_self fun m hm => ih m hm fun r hr => h r (List.mem_flatMap.mpr ⟨m, hm, hr⟩))
  | case5 ref =>
    rw [DataType.references, List.forall_mem_singleton] at h
    exact .named h
  | case6 fields ih =>
    rw [DataType.references] at h
    exact .record (forall₂_map_self fun field hfield =>
      .mk rfl rfl (ih field hfield fun r hr => h r (List.mem_flatMap.mpr ⟨field, hfield, hr⟩)))
  | case7 => exact .string
  | case8 => exact .integer
  | case9 => exact .double
  | case10 => exact .float
  | case11 => exact .boolean
  | case12 => exact .void
  | case13 => exact .null
  | case14 => exact .any
  | case15 => exact .date

/-! ## Declarations and methods -/

/-- Bodies of declarations that differ in their references only. -/
inductive DeclBody.SameUpTo (R : TypeRef → TypeRef → Prop) : DeclBody → DeclBody → Prop where
  | enumeration (cases : List EnumCase) : DeclBody.SameUpTo R (.enumeration cases) (.enumeration cases)
  | alias {type type' : DataType} (h : type.SameUpTo R type') : SameUpTo R (.alias type) (.alias type')
  | record {fields fields' : List Field} (h : List.Forall₂ (Field.SameUpTo R) fields fields') :
      SameUpTo R (.record fields) (.record fields')

/-- A declaration of the same module with the same description, whose body differs in references only. Nothing is said
about the names of the two. -/
structure Declaration.SameUpTo (R : TypeRef → TypeRef → Prop) (d d' : Declaration) : Prop where
  modulePath : d'.modulePath = d.modulePath
  body : d.body.SameUpTo R d'.body
  docs : d'.docs = d.docs

/-- A parameter that differs in the references of its type only. -/
structure Parameter.SameUpTo (R : TypeRef → TypeRef → Prop) (p p' : Parameter) : Prop where
  name : p'.name = p.name
  type : p.type.SameUpTo R p'.type
  optional : p'.optional = p.optional
  defaultValue : p'.defaultValue = p.defaultValue

/-- A method that differs in the references of its signature only. -/
structure Method.SameUpTo (R : TypeRef → TypeRef → Prop) (m m' : Method) : Prop where
  name : m'.name = m.name
  params : List.Forall₂ (Parameter.SameUpTo R) m.params m'.params
  returns : m.returns.SameUpTo R m'.returns
  exposure : m'.exposure = m.exposure
  docs : m'.docs = m.docs

theorem Declaration.sameUpTo_mapReferences (d : Declaration) (h : ∀ r ∈ d.references, R r (f r)) :
    d.SameUpTo R (d.mapReferences f) := by
  obtain ⟨name, modulePath, body, docs⟩ := d
  match body with
  | .enumeration cases => exact ⟨rfl, .enumeration cases, rfl⟩
  | .alias type => exact ⟨rfl, .alias (type.sameUpTo_mapReferences h), rfl⟩
  | .record fields =>
    refine ⟨rfl, .record (forall₂_map_self fun field hfield => .mk rfl rfl ?_), rfl⟩
    exact field.type.sameUpTo_mapReferences fun r hr => h r (List.mem_flatMap.mpr ⟨field, hfield, hr⟩)

theorem Method.sameUpTo_mapReferences (m : Method) (h : ∀ r ∈ m.references, R r (f r)) :
    m.SameUpTo R (m.mapReferences f) := by
  unfold Method.references at h
  rw [List.forall_mem_append] at h
  refine ⟨rfl, forall₂_map_self fun p hp => ?_, m.returns.sameUpTo_mapReferences h.2, rfl, rfl⟩
  exact ⟨rfl, p.type.sameUpTo_mapReferences fun r hr => h.1 r (List.mem_flatMap.mpr ⟨p, hp, hr⟩), rfl, rfl⟩

end ServiceStubs
