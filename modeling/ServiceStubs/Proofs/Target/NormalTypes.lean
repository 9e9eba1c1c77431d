import ServiceStubs.Proofs.Target.PythonUnions
import ServiceStubs.Target.TypeScript

/-!
# Types as far as TypeScript tells them apart

TypeScript has one type for all numbers, and no word for how a union is put together from unions. A reference is spelled
by its name, and the key of a `Record` is a string if it is neither a number nor an enum.

* `IsLegible` are the types whose unions are unions, and whose references are spelled like no other type;
* `normal` is a type without the differences that TypeScript does not make, and `isNormal_normal` says what it is put
  together from;
* `typeText_normal` says that these differences do not show in the spelling.
-/

namespace ServiceStubs.TypeScript

/-! ## Legible types -/

/-- The words that stand for types by themselves, or in front of other types. -/
def typeWords : List String :=
  ["string", "number", "boolean", "void", "null", "any", "Date", "Record", "Promise"]

/-- Every union in a type has at least two members. -/
def HasWideUnions : DataType → Prop
  | .array item => HasWideUnions item
  | .map key value => HasWideUnions key ∧ HasWideUnions value
  | .promise result => HasWideUnions result
  | .union members => 2 ≤ members.length ∧ ∀ m, m ∈ members → HasWideUnions m
  | .record fields => ∀ f : Field, f ∈ fields → HasWideUnions f.type
  | _ => True
termination_by t => sizeOf t
decreasing_by
  all_goals first | decreasing_tactic | exact Field.sizeOf_type_lt_of_mem ‹_ ∈ _›

/-- A name that can be told from the words for types. -/
def IsFreeName (name : String) : Prop :=
  isPlainName name ∧ name ∉ typeWords

instance (name : String) : Decidable (IsFreeName name) :=
  inferInstanceAs (Decidable (_ ∧ _))

/-- Every union in a type has at least two members, and every reference has a name that is no word for a type. -/
structure IsLegible (t : DataType) : Prop where
  wide : HasWideUnions t
  free : ∀ ref ∈ t.references, IsFreeName ref.name

namespace IsLegible

theorem item {item : DataType} (h : IsLegible (.array item)) : IsLegible item := by
  obtain ⟨hwide, hfree⟩ := h
  rw [HasWideUnions] at hwide
  rw [DataType.references] at hfree
  exact ⟨hwide, hfree⟩

theorem key {key value : DataType} (h : IsLegible (.map key value)) : IsLegible key := by
  obtain ⟨hwide, hfree⟩ := h
  rw [HasWideUnions] at hwide
  rw [DataType.references, List.forall_mem_append] at hfree
  exact ⟨hwide.1, hfree.1⟩

theorem value {key value : DataType} (h : IsLegible (.map key value)) : IsLegible value := by
  obtain ⟨hwide, hfree⟩ := h
  rw [HasWideUnions] at hwide
  rw [DataType.references, List.forall_mem_append] at hfree
  exact ⟨hwide.2, hfree.2⟩

theorem result {result : DataType} (h : IsLegible (.promise result)) : IsLegible result := by
  obtain ⟨hwide, hfree⟩ := h
  rw [HasWideUnions] at hwide
  rw [DataType.references] at hfree
  exact ⟨hwide, hfree⟩

theorem two_le_length {members : List DataType} (h : IsLegible (.union members)) : 2 ≤ members.length := by
  have hwide := h.wide
  rw [HasWideUnions] at hwide
  exact hwide.1

theorem member {members : List DataType} (h : IsLegible (.union members)) {m : DataType} (hm : m ∈ members) :
    IsLegible m := by
  obtain ⟨hwide, hfree⟩ := h
  rw [HasWideUnions] at hwide
  rw [DataType.references] at hfree
  exact ⟨hwide.2 m hm, fun ref href => hfree ref (List.mem_flatMap.mpr ⟨m, hm, href⟩)⟩

theorem name {ref : TypeRef} (h : IsLegible (.named ref)) : IsFreeName ref.name := by
  have hfree := h.free
  rwa [DataType.references, List.forall_mem_singleton] at hfree

theorem field {fields : List Field} (h : IsLegible (.record fields)) {f : Field} (hf : f ∈ fields) :
    IsLegible f.type := by
  obtain ⟨hwide, hfree⟩ := h
  rw [HasWideUnions] at hwide
  rw [DataType.references] at hfree
  exact ⟨hwide f hf, fun ref href => hfree ref (List.mem_flatMap.mpr ⟨f, hf, href⟩)⟩

end IsLegible

/-! ## Normal forms -/

/-- The types of which a type is the union. -/
def membersOf : DataType → List DataType
  | .union members => members
  | t => [t]

theorem membersOf_eq_or (t : DataType) : membersOf t = [t] ∨ ∃ members, t = .union members := by
  cases t with
  | union members => exact .inr ⟨members, rfl⟩
  | _ => exact .inl rfl

/-- A reference of which only the name is left. -/
def bareRef (name : String) : TypeRef :=
  ⟨name, "", .enumeration⟩

/-- The key of a `Record`, without the differences that TypeScript does not make. -/
def normalKey : DataType → DataType
  | .integer | .double | .float => .double
  | .named ref => if ref.kind = .enumeration then .named (bareRef ref.name) else .string
  | _ => .string

/-- A type without the differences that TypeScript does not make. -/
def normal : DataType → DataType
  | .integer | .float => .double
  | .array item => .array (normal item)
  | .map key value => .map (normalKey key) (normal value)
  | .promise result => .promise (normal result)
  | .union members => .union (members.flatMap fun m => membersOf (normal m))
  | .named ref => .named (bareRef ref.name)
  | .record fields => .record (fields.map fun f => ⟨f.name, f.optional, normal f.type⟩)
  | t => t
termination_by t => sizeOf t
decreasing_by
  all_goals first | decreasing_tactic | exact Field.sizeOf_type_lt_of_mem ‹_ ∈ _›

/-- The type that a word stands for by itself. -/
def ofWord (word : String) : DataType :=
  match word with
  | "string" => .string
  | "number" => .double
  | "boolean" => .boolean
  | "void" => .void
  | "null" => .null
  | "any" => .any
  | "Date" => .date
  | _ => .named (bareRef word)

/-- The types that normal forms are put together from. Keys, and types that have no parts, are given by the words for
them. -/
inductive IsNormal : DataType → Prop where
  | word (word : String) (h : isPlainName word) : IsNormal (ofWord word)
  | array {item : DataType} (h : IsNormal item) : IsNormal (.array item)
  | map (key : String) {value : DataType} (hkey : isPlainName key) (htext : keyText (ofWord key) = key)
      (hvalue : IsNormal value) : IsNormal (.map (ofWord key) value)
  | promise {result : DataType} (h : IsNormal result) : IsNormal (.promise result)
  | union {members : List DataType} (htwo : 2 ≤ members.length) (h : ∀ m ∈ members, IsNormal m)
      (hflat : ∀ m ∈ members, membersOf m = [m]) : IsNormal (.union members)
  | record {fields : List Field} (h : ∀ f ∈ fields, IsNormal f.type) : IsNormal (.record fields)

theorem typeText_ofWord (word : String) : typeText (ofWord word) = word := by
  unfold ofWord
  split <;> rw [typeText]
  rfl

theorem membersOf_ofWord (word : String) : membersOf (ofWord word) = [ofWord word] := by
  unfold ofWord
  split <;> rfl

theorem ofWord_of_free {name : String} (h : IsFreeName name) : ofWord name = .named (bareRef name) := by
  have hfree := h.2
  unfold ofWord
  split <;> first | rfl | exact absurd (by decide) hfree

theorem IsNormal.of_mem_membersOf {t m : DataType} (h : IsNormal t) (hm : m ∈ membersOf t) :
    IsNormal m ∧ membersOf m = [m] := by
  have hself (heq : membersOf t = [t]) : IsNormal m ∧ membersOf m = [m] := by
    rw [heq, List.mem_singleton] at hm
    rw [hm]
    exact ⟨h, heq⟩
  cases h with
  | word => exact hself (membersOf_ofWord _)
  | union htwo hmembers hflat => exact ⟨hmembers m hm, hflat m hm⟩
  | _ => exact hself rfl

theorem IsNormal.membersOf_ne_nil {t : DataType} (h : IsNormal t) : membersOf t ≠ [] := by
  cases h with
  | word => simp [membersOf_ofWord]
  | union htwo => exact List.ne_nil_of_length_pos (Nat.lt_of_lt_of_le Nat.zero_lt_two htwo)
  | _ => exact List.cons_ne_nil _ _

theorem length_le_length_flatMap {α β : Type} {f : α → List β} {parts : List α} (h : ∀ a ∈ parts, f a ≠ []) :
    parts.length ≤ (parts.flatMap f).length := by
  induction parts with
  | nil => exact Nat.le_refl _
  | cons a parts ih =>
    rw [List.forall_mem_cons] at h
    have hfirst := List.length_pos_of_ne_nil h.1
    have hrest := ih h.2
    rw [List.flatMap_cons, List.length_append, List.length_cons]
    omega

theorem isNormal_union {members : List DataType} (htwo : 2 ≤ members.length)
    (h : ∀ m ∈ members, IsNormal (normal m)) : IsNormal (.union (members.flatMap fun m => membersOf (normal m))) := by
  have hmembers : ∀ m ∈ members.flatMap fun m => membersOf (normal m), IsNormal m ∧ membersOf m = [m] := by
    intro m' hm'
    obtain ⟨m, hm, hm'⟩ := List.mem_flatMap.mp hm'
    exact (h m hm).of_mem_membersOf hm'
  refine .union (Nat.le_trans htwo ?_) (fun m hm => (hmembers m hm).1) fun m hm => (hmembers m hm).2
  exact length_le_length_flatMap fun m hm => (h m hm).membersOf_ne_nil

theorem isNormal_map {key value : DataType} (hkey : IsLegible key) (hvalue : IsNormal value) :
    IsNormal (.map (normalKey key) value) := by
  have hstring : IsNormal (.map .string value) := .map "string" (by decide) (by decide) hvalue
  have hnumber : IsNormal (.map .double value) := .map "number" (by decide) (by decide) hvalue
  fun_cases normalKey key with
  | case1 | case2 | case3 => exact hnumber
  | case4 ref hkind =>
    have hword := ofWord_of_free hkey.name
    rw [← hword]
    exact .map ref.name hkey.name.1 (by rw [hword]; rfl) hvalue
  | case5 | case6 => exact hstring

theorem isNormal_normal {t : DataType} (h : IsLegible t) : IsNormal (normal t) := by
  fun_induction normal t with
  | case1 | case2 => exact .word "number" (by decide)
  | case3 item ih => exact .array (ih h.item)
  | case4 key value ih => exact isNormal_map h.key (ih h.value)
  | case5 result ih => exact .promise (ih h.result)
  -- The flattened union is no smaller, since no member disappears.
  | case6 members ih => exact isNormal_union h.two_le_length fun m hm => ih m hm (h.member hm)
  | case7 ref =>
    rw [← ofWord_of_free h.name]
    exact .word ref.name h.name.1
  | case8 fields ih =>
    refine .record fun f hf => ?_
    obtain ⟨f', hf', rfl⟩ := List.mem_map.mp hf
    exact ih f' hf' (h.field hf')
  | case9 t hinteger hfloat harray hmap hpromise hunion hnamed hrecord =>
    cases t with
    | string => exact .word "string" (by decide)
    | double => exact .word "number" (by decide)
    | boolean => exact .word "boolean" (by decide)
    | void => exact .word "void" (by decide)
    | null => exact .word "null" (by decide)
    | any => exact .word "any" (by decide)
    | date => exact .word "Date" (by decide)
    | integer => exact absurd rfl hinteger
    | float => exact absurd rfl hfloat
    | array item => exact absurd rfl (harray item)
    | map key value => exact absurd rfl (hmap key value)
    | promise result => exact absurd rfl (hpromise result)
    | union members => exact absurd rfl (hunion members)
    | named ref => exact absurd rfl (hnamed ref)
    | record fields => exact absurd rfl (hrecord fields)

/-! ## The spelling of a normal form -/

theorem typeText_array_union {members : List DataType} (h : 2 ≤ members.length) :
    typeText (.array (.union members)) = "(" ++ typeText (.union members) ++ ")[]" := by
  match members, h with
  | first :: second :: rest, _ => rw [typeText]

theorem typeText_array {item : DataType} (h : membersOf item = [item]) :
    typeText (.array item) = typeText item ++ "[]" := by
  rw [typeText]
  -- Only a union of two or more members stands in parentheses.
  rintro first second rest rfl
  simp [membersOf] at h

theorem typeText_membersOf {t : DataType} (h : membersOf t ≠ []) :
    typeText t = " | ".intercalate ((membersOf t).map fun m => typeText m) := by
  cases t with
  | union members =>
    rw [typeText]
    · rfl
    · rintro rfl
      exact h rfl
  | _ => simp [membersOf]

/-- How a field of a record is spelled. -/
def fieldText (f : Field) : String :=
  propertyName f.name ++ (if f.optional then "?" else "") ++ ": " ++ typeText f.type

theorem typeText_record {fields : List Field} (h : fields ≠ []) :
    typeText (.record fields) = "\x7b " ++ "; ".intercalate (fields.map fieldText) ++ " \x7d" := by
  rw [typeText]
  · rfl
  · exact h

theorem keyText_normalKey (key : DataType) : keyText (normalKey key) = keyText key := by
  cases key with
  | named ref => by_cases hkind : ref.kind = .enumeration <;> simp [normalKey, keyText, hkind, bareRef]
  | _ => rfl

theorem IsNormal.two_le_length {members : List DataType} (h : IsNormal (.union members)) : 2 ≤ members.length := by
  have hword : ∀ word, ofWord word ≠ .union members := by
    intro word
    unfold ofWord
    split <;> simp
  generalize ht : DataType.union members = t at h hword
  cases h with
  | word word => exact absurd rfl (hword word)
  | union htwo =>
    obtain rfl := DataType.union.inj ht
    exact htwo
  | _ => cases ht

theorem typeText_array_normal {item : DataType} (h : IsLegible item) (ih : typeText (normal item) = typeText item) :
    typeText (.array (normal item)) = typeText (.array item) := by
  cases item with
  | union members =>
    have hnormal := isNormal_normal h
    rw [normal] at hnormal ih ⊢
    rw [typeText_array_union hnormal.two_le_length, typeText_array_union h.two_le_length, ih]
  | _ => rw [typeText_array (by simp only [normal]; rfl), typeText_array rfl, ih]

theorem typeText_union_normal {members : List DataType} (h : IsLegible (.union members))
    (ih : ∀ m ∈ members, typeText (normal m) = typeText m) :
    typeText (normal (.union members)) = typeText (.union members) := by
  have hnormal : ∀ m ∈ members, IsNormal (normal m) := fun m hm => isNormal_normal (h.member hm)
  have hne : membersOf (.union members) ≠ [] := by
    have htwo := h.two_le_length
    exact List.ne_nil_of_length_pos (by simp only [membersOf]; omega)
  calc typeText (normal (.union members))
    _ = " | ".intercalate ((membersOf (normal (.union members))).map fun m => typeText m) :=
      typeText_membersOf (isNormal_normal h).membersOf_ne_nil
    _ = " | ".intercalate (members.flatMap fun m => (membersOf (normal m)).map fun m => typeText m) := by
      rw [normal, membersOf, List.map_flatMap]
    _ = " | ".intercalate (members.map fun m => " | ".intercalate ((membersOf (normal m)).map fun m => typeText m)) :=
      Python.intercalate_flatMap _ fun m hm => by simpa using (hnormal m hm).membersOf_ne_nil
    _ = " | ".intercalate (members.map fun m => typeText m) := by
      refine congrArg _ (List.map_congr_left fun m hm => ?_)
      rw [← typeText_membersOf (hnormal m hm).membersOf_ne_nil, ih m hm]
    _ = typeText (.union members) := (typeText_membersOf hne).symm

theorem typeText_record_normal {fields : List Field} (ih : ∀ f ∈ fields, typeText (normal f.type) = typeText f.type) :
    typeText (normal (.record fields)) = typeText (.record fields) := by
  rw [normal]
  by_cases hne : fields = []
  · rw [hne, List.map_nil]
  · rw [typeText_record (by simpa using hne), typeText_record hne, List.map_map]
    have hfields : fields.map (fieldText ∘ fun f => ⟨f.name, f.optional, normal f.type⟩) = fields.map fieldText :=
      List.map_congr_left fun f hf => by simp only [Function.comp_apply, fieldText, ih f hf]
    rw [hfields]

/-- The differences that a normal form is without do not show in the spelling. -/
theorem typeText_normal {t : DataType} (h : IsLegible t) : typeText (normal t) = typeText t := by
  fun_induction normal t with
  | case1 | case2 => rw [typeText, typeText]
  | case3 item ih => exact typeText_array_normal h.item (ih h.item)
  | case4 key value ih => rw [typeText, typeText, keyText_normalKey, ih h.value]
  | case5 result ih => rw [typeText, typeText, ih h.result]
  | case6 members ih =>
    rw [← normal]
    exact typeText_union_normal h fun m hm => ih m hm (h.member hm)
  | case7 ref => rw [typeText, typeText, bareRef]
  | case8 fields ih =>
    rw [← normal]
    exact typeText_record_normal fun f hf => ih f hf (h.field hf)
  | case9 t => rfl

end ServiceStubs.TypeScript
