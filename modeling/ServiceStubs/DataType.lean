/-!
# Types of values that travel between client and service

`DataType` is one occurrence of a type in a signature or in the body of a declaration. Named types
are not expanded: a `TypeRef` points at the declaration by its `DeclKey`.

Main definitions:

* `DataType.references` lists the references inside a type, from left to right;
* `DataType.mapReferences` changes them in place;
* `nullableInner?` recognises the unions that say "this type or nothing";
* `DataType.spelling` is the form in which a summary shows a type.
-/

namespace ServiceStubs

/-! ## References -/

/-- What a declaration declares. -/
inductive DeclKind where
  | enumeration
  | alias
  | record
deriving DecidableEq, Repr

/-- The identity of a declaration: its name and the module that declares it. -/
structure DeclKey where
  name : String
  modulePath : String
deriving DecidableEq, Repr

/-- A use of a declared type. The kind is kept beside the key, so that a type can be rendered without
a look at its declaration. -/
structure TypeRef where
  name : String
  modulePath : String
  kind : DeclKind
deriving DecidableEq, Repr

/-- The key of the declaration a reference points at. -/
def TypeRef.key (r : TypeRef) : DeclKey :=
  ⟨r.name, r.modulePath⟩

/-! ## Types -/

mutual

/-- A type as it occurs in a signature or declaration. -/
inductive DataType where
  | string
  | integer
  | double
  | float
  | boolean
  | void
  | null
  | any
  | date
  | array (item : DataType)
  | map (key value : DataType)
  | promise (result : DataType)
  | union (members : List DataType)
  | named (ref : TypeRef)
  | record (fields : List Field)

/-- A property of a record. -/
structure Field where
  name : String
  optional : Bool
  type : DataType

end

instance : Inhabited DataType := ⟨.any⟩

instance : Inhabited Field := ⟨⟨"", false, .any⟩⟩

theorem Field.sizeOf_type_lt (f : Field) : sizeOf f.type < sizeOf f := by
  cases f
  simp

theorem Field.sizeOf_type_lt_of_mem {f : Field} {fs : List Field} (h : f ∈ fs) :
    sizeOf f.type < sizeOf (DataType.record fs) := by
  have := List.sizeOf_lt_of_mem h
  have := f.sizeOf_type_lt
  simp only [DataType.record.sizeOf_spec]
  omega

/-! ## Walking a type -/

/-- The references inside a type, from left to right. Declarations are not looked into. -/
def DataType.references : DataType → List TypeRef
  | .array item => item.references
  | .map key value => key.references ++ value.references
  | .promise result => result.references
  | .union members => members.flatMap fun m => m.references
  | .named ref => [ref]
  | .record fields => fields.flatMap fun f => f.type.references
  | .string | .integer | .double | .float | .boolean | .void | .null | .any | .date => []
termination_by t => sizeOf t
decreasing_by
  all_goals first | decreasing_tactic | exact Field.sizeOf_type_lt_of_mem ‹_ ∈ _›

/-- The type in which `f` has been applied to every reference. -/
def DataType.mapReferences (f : TypeRef → TypeRef) : DataType → DataType
  | .array item => .array (item.mapReferences f)
  | .map key value => .map (key.mapReferences f) (value.mapReferences f)
  | .promise result => .promise (result.mapReferences f)
  | .union members => .union (members.map fun m => m.mapReferences f)
  | .named ref => .named (f ref)
  | .record fields =>
    .record (fields.map fun field => ⟨field.name, field.optional, field.type.mapReferences f⟩)
  | .string => .string
  | .integer => .integer
  | .double => .double
  | .float => .float
  | .boolean => .boolean
  | .void => .void
  | .null => .null
  | .any => .any
  | .date => .date
termination_by t => sizeOf t
decreasing_by
  all_goals first | decreasing_tactic | exact Field.sizeOf_type_lt_of_mem ‹_ ∈ _›

/-! ## Views of a type -/

/-- Whether the type is `null`. -/
def DataType.isNull : DataType → Bool
  | .null => true
  | _ => false

/-- Whether the type is `void`. -/
def DataType.isVoid : DataType → Bool
  | .void => true
  | _ => false

/-- The type of the value once it has arrived: one level of `promise` is taken off. -/
def DataType.awaited : DataType → DataType
  | .promise result => result
  | t => t

/-- For the members of a union that hold exactly one type besides any number of `null`s, and at least
one `null`, that type. -/
def nullableInner? (members : List DataType) : Option DataType :=
  match members.filter (fun m => !m.isNull) with
  | [inner] => if members.length = 1 then none else some inner
  | _ => none

theorem mem_of_nullableInner? {members : List DataType} {t : DataType}
    (h : nullableInner? members = some t) : t ∈ members := by
  unfold nullableInner? at h
  split at h
  · next inner heq =>
    split at h
    · simp at h
    · obtain rfl := Option.some.inj h
      exact (List.mem_filter.1 (heq ▸ List.mem_singleton.2 rfl : inner ∈ _)).1
  · simp at h

theorem sizeOf_lt_of_nullableInner? {members : List DataType} {t : DataType}
    (h : nullableInner? members = some t) : sizeOf t < sizeOf (DataType.union members) := by
  have := List.sizeOf_lt_of_mem (mem_of_nullableInner? h)
  simp only [DataType.union.sizeOf_spec]
  omega

/-- The type that a nullable type adds `null` to, if it is a nullable type. -/
def DataType.nullableInner? : DataType → Option DataType
  | .union members => ServiceStubs.nullableInner? members
  | _ => none

/-! ## Spelling -/

/-- A type as a summary shows it. -/
def DataType.spelling : DataType → String
  | .string => "string"
  | .integer => "integer"
  | .double => "number"
  | .float => "float"
  | .boolean => "boolean"
  | .void => "void"
  | .null => "null"
  | .any => "any"
  | .date => "Date"
  | .array (.union members) =>
    "(" ++ " | ".intercalate (members.map fun m => m.spelling) ++ ")[]"
  | .array item => item.spelling ++ "[]"
  | .map key value => "\x7b [key: " ++ key.spelling ++ "]: " ++ value.spelling ++ " \x7d"
  | .promise result => "Promise<" ++ result.spelling ++ ">"
  | .union members => " | ".intercalate (members.map fun m => m.spelling)
  | .named ref => ref.name
  | .record [] => "\x7b\x7d"
  | .record fields =>
    "\x7b " ++
      "; ".intercalate (fields.map fun f =>
        f.name ++ (if f.optional then "?" else "") ++ ": " ++ f.type.spelling) ++
      " \x7d"
termination_by t => sizeOf t
decreasing_by
  all_goals first | decreasing_tactic | exact Field.sizeOf_type_lt_of_mem ‹_ ∈ _›

/-! ## Order of fields -/

/-- Required fields first, then the optional ones, each group in its own order. Constructors list
their parameters so. -/
def requiredFirst (fields : List Field) : List Field :=
  fields.filter (fun f => !f.optional) ++ fields.filter (fun f => f.optional)

end ServiceStubs
