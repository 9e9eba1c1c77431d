import ServiceStubs.Proofs.Target.ScopeNames
import ServiceStubs.Proofs.Target.WireKey

/-!
# Members of records

A record is written with a member for each of its fields, which the constructor, the properties and the keys on the
wire refer to in turn. Here its text is laid out as a table of blocks: each block is fixed, or has a piece for each
member.

* `recordText_eq_layout` puts the text together from the blocks, in every target that has records;
* `Target.HasKey` says which key a member is read from and written to, which is one key at most by
  `Target.HasKey.unique`, and `hasKeys_iff` when it is the name of the field, for all members of a record;
* `recordMembers_keepKeys_iff` says that the fields are told apart, that the constructor begins with the required ones,
  and that their keys are their names but in these cases.

Identifiers are told apart as they are spelt. What else a target may have against them, such as their characters or the
names of classes and of inherited members, is not looked at.
-/

namespace ServiceStubs

/-! ## Members -/

/-- What is written in a record for one of its fields. -/
structure Member where
  field : Field
  ident : String
  /-- The source of its key, where it is written. -/
  key? : Option String

/-- The source of the key between two texts; nothing where none is written. -/
def Member.keyText (m : Member) (front back : String) : String :=
  match m.key? with
  | some key => front ++ key ++ back
  | none => ""

/-- The members of a record with the required ones first. -/
def requiredMembersFirst (members : List Member) : List Member :=
  members.filter (fun m => !m.field.optional) ++ members.filter fun m => m.field.optional

/-- The source of the key of a field. In Kotlin and Swift it is written only where it is not the identifier. -/
def Target.keySource? (target : Target) (f : Field) (ident : String) : Option String :=
  match target with
  | .kotlin | .swift => if ident = f.name then none else some (target.textLiteral .string f.name)
  | .go => some (Go.tagSource (Go.fieldTag f.name f.optional))
  | target => some (target.textLiteral .string f.name)

/-- The member for a field under its identifier. -/
def Target.member (target : Target) (f : Field) (ident : String) : Member :=
  ⟨f, ident, target.keySource? f ident⟩

/-- The identifiers of the fields of a record. -/
def Target.recordIdents (target : Target) (names : List String) : List String :=
  match target with
  | .go => Go.exportedNames names
  | target => safeIdents target.emitter.reserved names

/-- The members of the record with the fields. -/
def Target.members (target : Target) (fields : List Field) : List Member :=
  (fields.zip (target.recordIdents (fields.map (·.name)))).map fun (f, ident) => target.member f ident

/-! ## Layouts -/

/-- A part of the text of a record. -/
inductive Block where
  /-- Text that no member has a part in. -/
  | fixed (text : String)
  /-- A piece for each member. -/
  | members (piece : Member → String)
  /-- A piece for each member, the required ones first. -/
  | ordered (piece : Member → String)
  /-- A parameter for each member behind those that are given, the required ones first. -/
  | parameters (given : List String) (piece : Member → String)

def Block.render (members : List Member) : Block → String
  | .fixed text => text
  | .members piece => String.join (members.map piece)
  | .ordered piece => String.join ((requiredMembersFirst members).map piece)
  | .parameters given piece => commaSeparated (given ++ (requiredMembersFirst members).map piece)

/-- The text of the blocks for the members. -/
def layoutText (blocks : List Block) (members : List Member) : String :=
  String.join (blocks.map (Block.render members))

/-- The constructor takes the members by keyword from a mapping, and the record is turned into a mapping again. -/
def Python.recordBlocks (name : String) (isEmpty : Bool) : List Block :=
  List.flatten [
    [.fixed (unlines ["class " ++ name ++ ":"]),
      .fixed "    def __init__(",
      .parameters ["self"] fun m =>
        if m.field.optional then m.ident ++ ": " ++ optionalText (typeText m.field.type) ++ " = None"
        else m.ident ++ ": " ++ typeText m.field.type,
      .fixed (unlines [") -> None:"]),
      .fixed (unlines (if isEmpty then ["        pass"] else [])),
      .ordered fun m => unlines ["        self." ++ m.ident ++ " = " ++ storedValue m.field m.ident],
      .fixed (unlines ["",
        "    @classmethod",
        "    def from_mapping(cls, data: Mapping[str, Any]) -> " ++ name ++ ":"])],
    if isEmpty then [.fixed (unlines ["        return cls()"])]
    else
      [.fixed (unlines ["        return cls("]),
        .ordered fun m =>
          let value := if m.field.optional then m.keyText "data.get(" ")" else m.keyText "data[" "]"
          unlines ["            " ++ m.ident ++ "=" ++ value ++ ","],
        .fixed (unlines ["        )"])],
    [.fixed (unlines ["",
        "    def to_mapping(self) -> dict[str, Any]:",
        "        data: dict[str, Any] = \x7b\x7d"]),
      .members fun m =>
        let store := m.keyText "data[" "] = self." ++ m.ident
        unlines (if m.field.optional then ["        if self." ++ m.ident ++ " is not None:", "            " ++ store]
          else ["        " ++ store]),
      .fixed "        return data"]]

/-- The members are properties, which are decoded from a map and encoded to one. -/
def Dart.recordBlocks (name : String) (isEmpty : Bool) : List Block :=
  List.flatten [
    [.fixed ("class " ++ name ++ " \x7b\n"),
      .members fun m => "  final " ++ fieldType m.field ++ " " ++ m.ident ++ ";\n",
      .fixed (if isEmpty then "" else "\n")],
    if isEmpty then [.fixed ("  " ++ name ++ "();\n")]
    else
      [.fixed ("  " ++ name ++ "(\x7b"),
        .parameters [] fun m => if m.field.optional then "this." ++ m.ident else "required this." ++ m.ident,
        .fixed "\x7d);\n"],
    [.fixed ("\n  factory " ++ name ++ ".fromJson(Map<String, dynamic> json) => " ++ name ++ "(\n"),
      .ordered fun m =>
        let value := m.keyText "json[" "]"
        "        " ++ m.ident ++ ": " ++
          (if m.field.optional && m.field.type.nullableInner?.isNone then value ++ " == null ? null : " else "") ++
          decoded value 0 m.field.type ++ ",\n",
      .fixed "      );\n",
      .fixed "\n  Map<String, dynamic> toJson() => \x7b\n",
      .members fun m =>
        "        " ++ (if m.field.optional then "if (" ++ m.ident ++ " != null) " else "") ++
          m.keyText "" ": " ++ m.ident ++ ",\n",
      .fixed "      \x7d;\n\x7d"]]

/-- The members are parameters of the constructor, annotated with their keys where these are not their names. -/
def Kotlin.recordBlocks (name : String) (isEmpty : Bool) : List Block :=
  if isEmpty then [.fixed ("class " ++ name)]
  else
    [.fixed ("data class " ++ name ++ "(\n"),
      .ordered fun m =>
        "    " ++ m.keyText "@SerializedName(" ") " ++ "val " ++ m.ident ++ ": " ++
          (if m.field.optional then nullableText topTypes (typeText m.field.type) ++ " = null"
            else typeText m.field.type) ++ ",\n",
      .fixed ")"]

/-- The members are properties; their keys are listed if not all are the names of the properties. -/
def Swift.recordBlocks (name : String) (members : List Member) : List Block :=
  List.flatten [
    [.fixed ("public final class " ++ name ++ ": Codable \x7b\n"),
      .members fun m => "    public var " ++ m.ident ++ ": " ++ fieldType m.field ++ "\n",
      .fixed (if members.isEmpty then "" else "\n"),
      .fixed "    public init(",
      .parameters [] fun m =>
        m.ident ++ ": " ++ fieldType m.field ++ if Text.endsWith (fieldType m.field) "?" then " = nil" else "",
      .fixed ") \x7b\n",
      .ordered fun m => "        self." ++ m.ident ++ " = " ++ m.ident ++ "\n",
      .fixed "    \x7d\n"],
    if members.all fun m => m.key?.isNone then []
    else
      [.fixed "\n    enum CodingKeys: String, CodingKey \x7b\n",
        .members fun m => "        case " ++ m.ident ++ m.keyText " = " "" ++ "\n",
        .fixed "    \x7d\n"],
    [.fixed "\x7d"]]

/-- The members are fields with tags. -/
def Go.recordBlocks (name : String) (isEmpty : Bool) : List Block :=
  if isEmpty then [.fixed ("type " ++ name ++ " struct\x7b\x7d")]
  else
    [.fixed ("type " ++ name ++ " struct \x7b\n"),
      .members fun m =>
        let type := if m.field.optional then pointer (typeText m.field.type) else typeText m.field.type
        "\t" ++ m.ident ++ " " ++ type ++ m.keyText " " "\n",
      .fixed "\x7d"]

/-! ## The text of a record -/

theorem length_recordIdents (target : Target) (names : List String) :
    (target.recordIdents names).length = names.length := by
  cases target with
  | go => exact length_exportedAfter [] names
  | _ => exact length_safeIdents _ names

/-- Names that are told apart are found in a table. -/
theorem lookup_eq_some_of_mem {β : Type} {table : List (String × β)} (h : (table.map Prod.fst).Nodup) {name : String}
    {value : β} (hmem : (name, value) ∈ table) : table.lookup name = some value := by
  obtain ⟨before, after, rfl⟩ := List.append_of_mem hmem
  rw [List.map_append, List.map_cons, List.nodup_append] at h
  refine List.lookup_eq_some_iff.mpr ⟨before, after, rfl, ?_⟩
  intro entry hentry
  have hne := h.2.2 _ (List.mem_map_of_mem hentry) name List.mem_cons_self
  simpa using hne.symm

/-- Where names are told apart, each field has the identifier that stands beside its name. -/
theorem map_identOf_zip {fields : List Field} {idents : List String} (h : (fields.map (·.name)).Nodup)
    (hlength : idents.length = fields.length) :
    fields.map (identOf ((fields.map (·.name)).zip idents)) = idents := by
  have hkeys : (((fields.map (·.name)).zip idents).reverse.map Prod.fst).Nodup := by
    rw [List.map_reverse, List.nodup_reverse, List.map_fst_zip (by simp [hlength])]
    exact h
  refine List.ext_getElem (by simp [hlength]) fun i hi hi' => ?_
  rw [List.length_map] at hi
  have hmem : (fields[i].name, idents[i]) ∈ ((fields.map (·.name)).zip idents).reverse := by
    rw [List.mem_reverse, List.mem_iff_getElem]
    exact ⟨i, by rw [List.length_zip, List.length_map]; omega, by simp⟩
  rw [List.getElem_map]
  unfold identOf
  rw [lookup_eq_some_of_mem hkeys hmem, Option.getD_some]

theorem members_eq_map {target : Target} (ht : target ≠ .go) {fields : List Field}
    (h : (fields.map (·.name)).Nodup) :
    target.members fields =
      fields.map fun f => target.member f (identOf (fieldIdents target.emitter.reserved fields) f) := by
  let ident := identOf (fieldIdents target.emitter.reserved fields)
  have hidents : target.recordIdents (fields.map (·.name)) = fields.map ident := by
    have hlength : (safeIdents target.emitter.reserved (fields.map (·.name))).length = fields.length := by
      rw [length_safeIdents, List.length_map]
    have hfound : fields.map ident = safeIdents target.emitter.reserved (fields.map (·.name)) :=
      map_identOf_zip h hlength
    rw [hfound]
    cases target with
    | go => exact absurd rfl ht
    | _ => rfl
  have hzip : fields.zip (fields.map ident) = fields.map fun f => (f, ident f) := by
    simpa using List.zip_map' (f := id) (g := ident) (l := fields)
  unfold Target.members
  rw [hidents, hzip, List.map_map]
  rfl

theorem requiredMembersFirst_map {make : Field → Member} (h : ∀ f, (make f).field = f) (fields : List Field) :
    requiredMembersFirst (fields.map make) = (requiredFirst fields).map make := by
  unfold requiredMembersFirst requiredFirst
  simp [List.filter_map, Function.comp_def, h]

@[simp] theorem unlines_nil : unlines [] = "" := rfl

@[simp] theorem unlines_cons (line : String) (lines : List String) :
    unlines (line :: lines) = line ++ "\n" ++ unlines lines := by
  simp [unlines, String.join_cons]

@[simp] theorem unlines_append (xs ys : List String) : unlines (xs ++ ys) = unlines xs ++ unlines ys := by
  simp [unlines, String.join_append]

@[simp] theorem unlines_map {α : Type} (f : α → String) (xs : List α) :
    unlines (xs.map f) = String.join (xs.map fun x => f x ++ "\n") := by
  simp [unlines, Function.comp_def]

@[simp] theorem unlines_flatMap {α : Type} (f : α → List String) (xs : List α) :
    unlines (xs.flatMap f) = String.join (xs.map fun x => unlines (f x)) := by
  induction xs with
  | nil => rfl
  | cons x xs ih => simp [String.join_cons, ih]

/-- Lines with another one behind them. -/
theorem intercalate_concat (lines : List String) (last : String) :
    "\n".intercalate (lines ++ [last]) = unlines lines ++ last := by
  induction lines with
  | nil => simp
  | cons line lines ih =>
    rw [List.cons_append, String.intercalate_cons_of_ne_nil (by simp), ih, unlines_cons, ← String.append_assoc]

theorem isEmpty_requiredFirst (fields : List Field) : (requiredFirst fields).isEmpty = fields.isEmpty := by
  cases fields with
  | nil => rfl
  | cons f rest => cases hoptional : f.optional <;> simp [requiredFirst, hoptional]

/-- A key that is written where it is not the identifier. -/
theorem keyText_ite {p : Prop} [Decidable p] (f : Field) (ident key front back : String) :
    Member.keyText ⟨f, ident, if p then none else some key⟩ front back = if p then "" else front ++ key ++ back := by
  split_ifs <;> rfl

namespace Python

theorem recordText_eq_layout (name : String) {fields : List Field} (h : (fields.map (·.name)).Nodup) :
    recordText name fields =
      layoutText (recordBlocks name fields.isEmpty) (Target.python.members fields) := by
  have hmembers : Target.python.members fields =
      fields.map fun f => Target.python.member f (identOf (fieldIdents reserved fields) f) :=
    members_eq_map (by decide) h
  rw [hmembers]
  unfold recordText recordBlocks layoutText
  rw [intercalate_concat]
  dsimp only
  rw [isEmpty_requiredFirst]
  cases fields.isEmpty <;>
    simp [-String.reduceAppend, Block.render, requiredMembersFirst_map, Target.member, Target.keySource?,
      Member.keyText, Target.textLiteral, literalText, String.append_assoc, String.join_cons, Function.comp_def,
      apply_ite unlines]

end Python

namespace Dart

theorem recordText_eq_layout (name : String) {fields : List Field} (h : (fields.map (·.name)).Nodup) :
    recordText name fields = layoutText (recordBlocks name fields.isEmpty) (Target.dart.members fields) := by
  have hmembers : Target.dart.members fields =
      fields.map fun f => Target.dart.member f (identOf (fieldIdents reserved fields) f) :=
    members_eq_map (by decide) h
  rw [hmembers]
  unfold recordText recordBlocks layoutText
  dsimp only
  rw [isEmpty_requiredFirst]
  cases fields.isEmpty <;>
    simp [-String.reduceAppend, Block.render, requiredMembersFirst_map, Target.member, Target.keySource?,
      Member.keyText, Target.textLiteral, literalText, String.append_assoc, String.join_cons, Function.comp_def]

end Dart

namespace Kotlin

theorem recordText_eq_layout (name : String) {fields : List Field} (h : (fields.map (·.name)).Nodup) :
    recordText name fields = layoutText (recordBlocks name fields.isEmpty) (Target.kotlin.members fields) := by
  have hmembers : Target.kotlin.members fields =
      fields.map fun f => Target.kotlin.member f (identOf (fieldIdents reserved fields) f) :=
    members_eq_map (by decide) h
  rw [hmembers]
  unfold recordText recordBlocks layoutText
  cases fields.isEmpty <;>
    simp [-String.reduceAppend, Block.render, requiredMembersFirst_map, Target.member, Target.keySource?,
      keyText_ite, Target.textLiteral, literalText, String.append_assoc, String.join_cons, Function.comp_def]

end Kotlin

namespace Swift

theorem recordText_eq_layout (name : String) {fields : List Field} (h : (fields.map (·.name)).Nodup) :
    recordText name fields =
      layoutText (recordBlocks name (Target.swift.members fields)) (Target.swift.members fields) := by
  have hmembers : Target.swift.members fields =
      fields.map fun f => Target.swift.member f (identOf (fieldIdents reserved fields) f) :=
    members_eq_map (by decide) h
  rw [hmembers]
  have hkeys : ((fields.map fun f => Target.swift.member f (identOf (fieldIdents reserved fields) f)).all
      fun m => m.key?.isNone) = fields.all fun f => identOf (fieldIdents reserved fields) f == f.name := by
    rw [List.all_map]
    refine List.all_congr rfl fun f => ?_
    simp only [Function.comp_apply, Target.member, Target.keySource?]
    split_ifs with hsame <;> simp [hsame]
  unfold recordText recordBlocks layoutText
  rw [hkeys]
  dsimp only
  cases fields.all fun f => identOf (fieldIdents reserved fields) f == f.name <;>
    simp [-String.reduceAppend, Block.render, requiredMembersFirst_map, Target.member, Target.keySource?,
      keyText_ite, Target.textLiteral, literalText, String.append_assoc, String.join_cons, Function.comp_def]

end Swift

namespace Go

theorem recordText_eq_layout (name : String) (fields : List Field) :
    recordText name fields = layoutText (recordBlocks name fields.isEmpty) (Target.go.members fields) := by
  have hfront : " `json:" = " " ++ "`json:" := rfl
  have hback : "`\n" = "`" ++ "\n" := rfl
  unfold recordText recordBlocks layoutText
  rw [hfront, hback]
  cases fields.isEmpty <;>
    simp [-String.reduceAppend, Block.render, Target.members, Target.recordIdents, Target.member, Target.keySource?,
      Member.keyText, tagSource, fieldTag, String.append_assoc, String.join_cons, Function.comp_def]

end Go

/-- The blocks of a record. -/
def Target.recordBlocks (target : Target) (name : String) (members : List Member) : List Block :=
  match target with
  | .python => Python.recordBlocks name members.isEmpty
  | .dart => Dart.recordBlocks name members.isEmpty
  | .kotlin => Kotlin.recordBlocks name members.isEmpty
  | .swift => Swift.recordBlocks name members
  | .go => Go.recordBlocks name members.isEmpty
  | .typeScript | .javaScript => []

/-- How documentation of declarations is spelt. -/
def Target.docStyle : Target → DocStyle
  | .typeScript | .javaScript | .kotlin => .block
  | .python => .hash
  | .swift | .dart => .tripleSlash
  | .go => .doubleSlash

theorem map_field_members (target : Target) (fields : List Field) :
    (target.members fields).map (·.field) = fields := by
  unfold Target.members
  rw [List.map_map]
  refine List.map_fst_zip (Nat.le_of_eq ?_)
  rw [length_recordIdents, List.length_map]

theorem map_ident_members (target : Target) (fields : List Field) :
    (target.members fields).map (·.ident) = target.recordIdents (fields.map (·.name)) := by
  unfold Target.members
  rw [List.map_map]
  refine List.map_snd_zip (Nat.le_of_eq ?_)
  rw [length_recordIdents, List.length_map]

theorem declarationText_record {target : Target} (hscript : target ≠ .typeScript ∧ target ≠ .javaScript)
    {d : Declaration} {fields : List Field} (hd : d.body = .record fields) (h : (fields.map (·.name)).Nodup) :
    target.emitter.declarationText d = .ok (documented d.docs target.docStyle
      (layoutText (target.recordBlocks d.name (target.members fields)) (target.members fields))) := by
  have hempty : (target.members fields).isEmpty = fields.isEmpty := by
    conv_rhs => rw [← map_field_members target fields, List.isEmpty_map]
  obtain ⟨name, path, body, docs⟩ := d
  obtain rfl : body = .record fields := hd
  -- The script targets have been excluded, and each of the others has a layout of its own.
  cases target with
  | typeScript => exact absurd rfl hscript.1
  | javaScript => exact absurd rfl hscript.2
  | python =>
    dsimp only [Target.recordBlocks]
    rw [hempty, ← Python.recordText_eq_layout name h]
    rfl
  | dart =>
    dsimp only [Target.recordBlocks]
    rw [hempty, ← Dart.recordText_eq_layout name h]
    rfl
  | kotlin =>
    dsimp only [Target.recordBlocks]
    rw [hempty, ← Kotlin.recordText_eq_layout name h]
    rfl
  | swift =>
    dsimp only [Target.recordBlocks]
    rw [← Swift.recordText_eq_layout name h]
    rfl
  | go =>
    dsimp only [Target.recordBlocks]
    rw [hempty, ← Go.recordText_eq_layout name fields]
    rfl

/-! ## Keys of members -/

/-- Names in a class that begin with two underscores are private, unless they end so. They are spelt with the name of
the class, if there is more to it than underscores. -/
def Python.IsPrivate (className ident : String) : Prop :=
  Text.startsWith ident "__" ∧ ¬Text.endsWith ident "__" ∧ ∃ c ∈ className.toList, c ≠ '_'

/-- Whether values get to a member of the class by its identifier. In Python the keyword of a call is not spelt as a
private name is. In Dart the names of named parameters do not begin with underscores. In Kotlin names of underscores
only are reserved, and in Swift an underscore is no name. -/
def Target.Reaches (target : Target) (className ident : String) : Prop :=
  match target with
  | .python => ¬Python.IsPrivate className ident
  | .dart => ¬Text.startsWith ident "_"
  | .kotlin => ∃ c ∈ ident.toList, c ≠ '_'
  | .swift => ident ≠ "_"
  | .go | .typeScript | .javaScript => True

/-- The method by which a record is written, where it has one. -/
def Target.writer? : Target → Option String
  | .python => some "to_mapping"
  | .dart => some "toJson"
  | .kotlin | .swift | .go | .typeScript | .javaScript => none

/-- What is written for the member gives it the key. Where nothing is written, its identifier is the key. -/
def Target.GivesKey (target : Target) (data : UnicodeData) (chars : Go.Characters) (members : List Member) (m : Member)
    (key : String) : Prop :=
  match target with
  | .go =>
    Go.HasKey chars (members.map fun other => (other.ident, other.keyText "" "")) m.ident (m.keyText "" "") key
  | target =>
    match m.key? with
    | some source => target.Denotes data source key
    | none => key = m.ident

/-- By the rules of the target for the record with the members, the member is read from the key and written to it. No
member may hide the method by which the record is written. -/
def Target.HasKey (target : Target) (data : UnicodeData) (chars : Go.Characters) (className : String)
    (members : List Member) (m : Member) (key : String) : Prop :=
  target.Reaches className m.ident ∧ (∀ other ∈ members, target.writer? ≠ some other.ident) ∧
    target.GivesKey data chars members m key

/-- The name of a field can be written as a key. -/
def Target.SpellsKey (target : Target) (chars : Go.Characters) (m : Member) : Prop :=
  match target with
  | .go => Go.KeepsName chars m.ident m.field.name m.field.optional
  | target => m.field.name.toList.any target.misspells = false

/-- What a member has to be for its key to be the name of its field. -/
structure Target.KeepsKey (target : Target) (chars : Go.Characters) (className : String) (m : Member) : Prop where
  reached : target.Reaches className m.ident
  noWriter : target.writer? ≠ some m.ident
  spelled : target.SpellsKey chars m

theorem givesKey_some {target : Target} (ht : target ≠ .go) {data : UnicodeData} {chars : Go.Characters}
    {members : List Member} {m : Member} {source : String} (h : m.key? = some source) (key : String) :
    target.GivesKey data chars members m key ↔ target.Denotes data source key := by
  cases target with
  | go => exact absurd rfl ht
  | _ => simp [Target.GivesKey, h]

theorem givesKey_none {target : Target} (ht : target ≠ .go) {data : UnicodeData} {chars : Go.Characters}
    {members : List Member} {m : Member} (h : m.key? = none) (key : String) :
    target.GivesKey data chars members m key ↔ key = m.ident := by
  cases target with
  | go => exact absurd rfl ht
  | _ => simp [Target.GivesKey, h]

/-- A member has one key at most. -/
theorem Target.HasKey.unique {target : Target} {data : UnicodeData} {chars : Go.Characters} {className : String}
    {members : List Member} {m : Member} {key key' : String} (h : target.HasKey data chars className members m key)
    (h' : target.HasKey data chars className members m key') : key = key' := by
  obtain ⟨-, -, hgiven⟩ := h
  obtain ⟨-, -, hgiven'⟩ := h'
  by_cases hgo : target = .go
  · subst hgo
    exact hgiven.1.unique hgiven'.1
  · cases hkey : m.key? with
    | some source =>
      rw [givesKey_some hgo hkey] at hgiven hgiven'
      exact hgiven.unique hgiven'
    | none =>
      rw [givesKey_none hgo hkey] at hgiven hgiven'
      exact hgiven.trans hgiven'.symm

theorem mem_members {target : Target} {fields : List Field} {m : Member} (h : m ∈ target.members fields) :
    m = target.member m.field m.ident ∧
      (m.field, m.ident) ∈ fields.zip (target.recordIdents (fields.map (·.name))) := by
  obtain ⟨⟨f, ident⟩, hzip, rfl⟩ := List.mem_map.mp h
  exact ⟨rfl, hzip⟩

theorem isWordChar_of_mem_sanitized {name : String} {c : Char} (h : c ∈ (sanitized name).toList) :
    Text.isWordChar c := by
  have hunderscore : Text.isWordChar '_' := by decide
  have hword : ∀ cs : List Char, ∀ d ∈ wordChars cs, Text.isWordChar d := by
    intro cs d hd
    obtain ⟨e, -, rfl⟩ := List.mem_map.mp hd
    split
    · assumption
    · exact hunderscore
  unfold sanitized at h
  split at h
  · obtain rfl : c = '_' := by simpa using h
    exact hunderscore
  · rename_i first rest hcons
    have hmem := hword name.toList
    rw [hcons] at hmem
    rw [String.toList_ofList] at h
    -- An underscore may have been put in front; the others have been made word characters.
    split at h
    · rcases List.mem_cons.mp h with rfl | h
      · exact hunderscore
      · exact hmem c h
    · exact hmem c h

/-- Identifiers have no control characters. -/
theorem le_toNat_of_isWordChar {c : Char} (h : Text.isWordChar c) : 32 ≤ c.toNat := by
  by_contra hcontrol
  have hnone : ∀ n < 32, Text.isWordChar (Char.ofNat n) = false := by decide
  have hfalse := hnone c.toNat (by omega)
  rw [Char.ofNat_toNat, h] at hfalse
  cases hfalse

/-- A field that is its own identifier has no character that Kotlin or Swift misspells. -/
theorem misspells_of_ident_eq {target : Target} (ht : target = .kotlin ∨ target = .swift) {fields : List Field}
    {m : Member} (hm : m ∈ target.members fields) (hsame : m.ident = m.field.name) :
    m.field.name.toList.any target.misspells = false := by
  have hzip : (m.field.name, m.ident) ∈
      (fields.map (·.name)).zip (safeIdents target.emitter.reserved (fields.map (·.name))) := by
    have hmem := (mem_members hm).2
    rw [List.zip_map_left]
    refine List.mem_map.mpr ⟨(m.field, m.ident), ?_, rfl⟩
    rcases ht with rfl | rfl
    · exact hmem
    · exact hmem
  obtain ⟨-, ⟨n, hident⟩, -⟩ := List.forall₂_zip (safeIdents_forall₂ _ _) hzip
  rw [List.any_eq_false]
  intro c hc
  have hword : Text.isWordChar c := by
    rw [← hsame, hident, toList_underscored, List.mem_append, List.mem_replicate] at hc
    rcases hc with hc | ⟨-, rfl⟩
    · exact isWordChar_of_mem_sanitized hc
    · decide
  -- Both languages misspell control characters only, and no word character is one.
  have hprintable := le_toNat_of_isWordChar hword
  rcases ht with rfl | rfl
  · simp [Target.misspells]
    omega
  · simp [Target.misspells]
    omega

theorem keyText_of_some {m : Member} {key : String} (h : m.key? = some key) : m.keyText "" "" = key := by
  simp [Member.keyText, h]

section Keeping

variable (data : UnicodeData) (chars : Go.Characters) (className : String) {fields : List Field}

/-- A key is the literal for the name of a field, or the name is the identifier and cannot be misspelt. -/
theorem givesKey_iff {target : Target} (ht : target ≠ .go) {m : Member} (hm : m ∈ target.members fields) :
    target.GivesKey data chars (target.members fields) m m.field.name ↔ target.SpellsKey chars m := by
  have hspells : target.SpellsKey chars m ↔ m.field.name.toList.any target.misspells = false := by
    cases target with
    | go => exact absurd rfl ht
    | _ => rfl
  have hkey : m.key? = target.keySource? m.field m.ident := congrArg Member.key? (mem_members hm).1
  -- Kotlin and Swift write a key only if it is not the identifier anyway.
  have hcases : m.key? = some (target.textLiteral .string m.field.name) ∨
      (m.key? = none ∧ m.ident = m.field.name ∧ (target = .kotlin ∨ target = .swift)) := by
    have hsource : ∀ target : Target, target = .kotlin ∨ target = .swift → target.keySource? m.field m.ident =
        if m.ident = m.field.name then none else some (target.textLiteral .string m.field.name) := by
      rintro target (rfl | rfl) <;> rfl
    rw [hkey]
    cases target with
    | go => exact absurd rfl ht
    | kotlin | swift =>
      rw [hsource _ (by simp)]
      split_ifs with hsame
      · exact .inr ⟨rfl, hsame, by simp⟩
      · exact .inl rfl
    | _ => exact .inl rfl
  rw [hspells]
  rcases hcases with hwritten | ⟨hnone, hsame, hunwritten⟩
  · rw [givesKey_some ht hwritten, denotes_textLiteral_iff]
    exact and_iff_left rfl
  · rw [givesKey_none ht hnone]
    exact iff_of_true hsame.symm (misspells_of_ident_eq hunwritten hm hsame)

theorem Go.givesKeys_iff (h : (fields.map (·.name)).Nodup) :
    (∀ m ∈ Target.go.members fields,
        Target.go.GivesKey data chars (Target.go.members fields) m m.field.name) ↔
      ∀ m ∈ Target.go.members fields, Target.go.SpellsKey chars m := by
  have hclaims : ∀ m ∈ Target.go.members fields,
      ClaimsKey chars m.ident (m.keyText "" "") m.field.name ↔ Target.go.SpellsKey chars m := by
    intro m hm
    have hkey : m.key? = some (tagSource (fieldTag m.field.name m.field.optional)) :=
      congrArg Member.key? (mem_members hm).1
    rw [keyText_of_some hkey]
    exact claimsKey_fieldTag_iff chars m.ident m.field.name m.field.optional
  constructor
  · exact fun h m hm => (hclaims m hm).mp (h m hm).1
  · intro hkeeps m hm
    refine ⟨(hclaims m hm).mpr (hkeeps m hm), ?_⟩
    intro entry hentry hident hrival
    obtain ⟨other, hother, rfl⟩ := List.mem_map.mp hentry
    -- A rival has its own name for a key, too, and is the same field.
    have hname : m.field.name = other.field.name :=
      hrival.unique ((hclaims other hother).mpr (hkeeps other hother))
    have hnodup : ((Target.go.members fields).map fun m => m.field.name).Nodup := by
      rw [← map_field_members .go fields, List.map_map] at h
      exact h
    obtain rfl : m = other := List.inj_on_of_nodup_map hnodup hm hother hname
    exact absurd rfl hident

theorem hasKeys_iff {target : Target} (h : (fields.map (·.name)).Nodup) :
    (∀ m ∈ target.members fields, target.HasKey data chars className (target.members fields) m m.field.name) ↔
      ∀ m ∈ target.members fields, target.KeepsKey chars className m := by
  have hgiven : (∀ m ∈ target.members fields, target.GivesKey data chars (target.members fields) m m.field.name) ↔
      ∀ m ∈ target.members fields, target.SpellsKey chars m := by
    by_cases hgo : target = .go
    · subst hgo
      exact Go.givesKeys_iff data chars h
    · exact forall₂_congr fun _ hm => givesKey_iff data chars hgo hm
  constructor
  · intro hall m hm
    exact ⟨(hall m hm).1, (hall m hm).2.1 m hm, hgiven.mp (fun m hm => (hall m hm).2.2) m hm⟩
  · intro hall m hm
    exact ⟨(hall m hm).reached, fun other hother => (hall other hother).noWriter,
      hgiven.mpr (fun m hm => (hall m hm).spelled) m hm⟩

end Keeping

/-! ## Records -/

theorem requiredMembersFirst_perm (members : List Member) : (requiredMembersFirst members).Perm members := by
  have hparts := List.filter_append_perm (fun m : Member => m.field.optional) members
  exact List.perm_append_comm.trans hparts

theorem requiredMembersFirst_pairwise (members : List Member) :
    (requiredMembersFirst members).Pairwise fun a b => a.field.optional → b.field.optional := by
  refine List.pairwise_append.mpr ⟨?_, ?_, ?_⟩
  · refine List.pairwise_of_forall_mem_list fun a ha b _ hoptional => ?_
    have hrequired := (List.mem_filter.mp ha).2
    rw [hoptional] at hrequired
    cases hrequired
  · exact List.pairwise_of_forall_mem_list fun _ _ b hb _ => (List.mem_filter.mp hb).2
  · exact fun _ _ b hb _ => (List.mem_filter.mp hb).2

theorem nodup_recordIdents (target : Target) {names : List String} (h : names.Nodup) :
    (target.recordIdents names).Nodup := by
  cases target with
  | go => exact Go.nodup_exportedNames names
  | _ => exact nodup_safeIdents h

/-- A record is written with one member for each field, under identifiers of their own, and the constructor takes the
required ones first. All members have the names of their fields for keys unless one of them cannot be reached by its
identifier, hides the method that writes the record, or has a name that is misspelt; in Go, a name that makes no tag, or
a tag that means something else. -/
theorem recordMembers_keepKeys_iff (data : UnicodeData) (chars : Go.Characters) {target : Target}
    (hscript : target ≠ .typeScript ∧ target ≠ .javaScript) {d : Declaration} {fields : List Field}
    (hd : d.body = .record fields) (h : (fields.map (·.name)).Nodup) :
    target.emitter.declarationText d = .ok (documented d.docs target.docStyle
        (layoutText (target.recordBlocks d.name (target.members fields)) (target.members fields))) ∧
      (target.members fields).map (·.field) = fields ∧
      ((target.members fields).map (·.ident)).Nodup ∧
      (requiredMembersFirst (target.members fields)).Perm (target.members fields) ∧
      (requiredMembersFirst (target.members fields)).Pairwise
        (fun a b => a.field.optional → b.field.optional) ∧
      ((∀ m ∈ target.members fields,
          target.HasKey data chars d.name (target.members fields) m m.field.name) ↔
        ∀ m ∈ target.members fields, target.KeepsKey chars d.name m) := by
  refine ⟨declarationText_record hscript hd h, map_field_members target fields, ?_,
    requiredMembersFirst_perm _, requiredMembersFirst_pairwise _, hasKeys_iff data chars d.name h⟩
  rw [map_ident_members]
  exact nodup_recordIdents target h

/-- A record with a field that is a reserved word. -/
def reservedField : List Field :=
  [⟨"class", true, .string⟩, ⟨"id", false, .string⟩]

def asciiCharacters : Go.Characters :=
  ⟨Char.isAlpha, Char.isDigit, Char.isUpper⟩

/-- In Kotlin the property is called `class_`, and annotated with its key. -/
theorem recordMembers_keepKeys_class :
    (reservedField.map (·.name)).Nodup ∧
      ∀ m ∈ Target.kotlin.members reservedField,
        Target.kotlin.HasKey plainUnicode asciiCharacters "R" (Target.kotlin.members reservedField) m m.field.name := by
  have hnames : (reservedField.map (·.name)).Nodup := by decide
  have hkeeps : ∀ m ∈ Target.kotlin.members reservedField, Target.kotlin.KeepsKey asciiCharacters "R" m := by
    have hspelled : ∀ m ∈ Target.kotlin.members reservedField,
        m.ident.toList.any (· != '_') ∧ m.field.name.toList.any Target.kotlin.misspells = false := by decide
    intro m hm
    obtain ⟨hident, hname⟩ := hspelled m hm
    obtain ⟨c, hc, hother⟩ := List.any_eq_true.mp hident
    exact ⟨⟨c, hc, bne_iff_ne.mp hother⟩, (Option.some_ne_none _).symm, hname⟩
  have hiff := @recordMembers_keepKeys_iff plainUnicode asciiCharacters .kotlin (by decide)
    ⟨"R", "s", .record reservedField, none⟩ reservedField rfl hnames
  exact ⟨hnames, hiff.2.2.2.2.2.mpr hkeeps⟩

/-- A record whose only field is called by a dash. -/
def dashField : List Field :=
  [⟨"-", false, .string⟩]

/-- In Go the tag for a dash leaves the field out, so that it is neither read nor written. -/
theorem recordMembers_loseKeys :
    Go.declarationText ⟨"R", "s", .record dashField, none⟩ =
        .ok "type R struct \x7b\n\tX string `json:\"-\"`\n\x7d" ∧
      (∀ (data : UnicodeData) (chars : Go.Characters), ∀ m ∈ Target.go.members dashField, ∀ key,
        ¬Target.go.HasKey data chars "R" (Target.go.members dashField) m key) ∧
      ¬∀ (data : UnicodeData) (chars : Go.Characters) (target : Target) (name : String) (fields : List Field),
        target ≠ .typeScript ∧ target ≠ .javaScript → (fields.map (·.name)).Nodup →
          ∀ m ∈ target.members fields, target.HasKey data chars name (target.members fields) m m.field.name := by
  have hident : Go.exportedNames ["-"] = ["X"] := by decide
  have htext : Go.recordText "R" dashField = "type R struct \x7b\n\tX string `json:\"-\"`\n\x7d" := by
    have htype : Go.typeText .string = "string" := by
      unfold Go.typeText
      rfl
    simp [Go.recordText, dashField, hident, htype]
    decide
  have hmembers : Target.go.members dashField = [Target.go.member ⟨"-", false, .string⟩ "X"] := by
    simp [Target.members, Target.recordIdents, dashField, hident]
  -- The tag is the dash alone, which means that the field is to be left out.
  have hnone : ∀ (data : UnicodeData) (chars : Go.Characters), ∀ m ∈ Target.go.members dashField, ∀ key,
      ¬Target.go.HasKey data chars "R" (Target.go.members dashField) m key := by
    rintro data chars m hm key ⟨-, -, ⟨-, tag, htag, hdash, -⟩, -⟩
    rw [hmembers, List.mem_singleton] at hm
    have hkey : m.keyText "" "" = Go.tagSource (Go.fieldTag "-" false) := by
      rw [hm]
      exact keyText_of_some rfl
    rw [hkey, Go.jsonTag_tagSource_iff] at htag
    exact hdash htag.2.2
  refine ⟨?_, hnone, fun hall => ?_⟩
  · rw [← htext]
    rfl
  · have hmem : Target.go.member ⟨"-", false, .string⟩ "X" ∈ Target.go.members dashField := by
      rw [hmembers]
      exact List.mem_singleton_self _
    exact hnone plainUnicode asciiCharacters _ hmem _
      (hall plainUnicode asciiCharacters .go "R" dashField (by decide) (by decide) _ hmem)

end ServiceStubs
