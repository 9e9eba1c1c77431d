import Mathlib.Data.List.Infix
import ServiceStubs.Target.Emitters
import ServiceStubs.Proofs.Target.Identifiers
import ServiceStubs.Proofs.Text.Split

/-!
# Stubs in parts

A method of a client declares its parameters and forwards them in one call, together with its name on the
wire. Here the lines of a method are taken apart: the entries of the parameter list, the arguments of the
call, the name between its quotation marks, and the identifiers by which the body refers to anything else.

* `methodLines_eq_lines` puts the lines of a method together from its parts, in every target;
* `clientText_stubs` finds them in the text of a client, under the names of the stubs.
-/

namespace ServiceStubs

/-! ## Code with names in it -/

/-- A piece of code; identifiers that refer to something outside of the method, or to a variable of its own,
stand apart. -/
inductive Fragment where
  | code (text : String)
  | name (ident : String)

def Fragment.text : Fragment → String
  | .code text => text
  | .name ident => ident

def Fragment.name? : Fragment → Option String
  | .code _ => none
  | .name ident => some ident

/-- The text of code in fragments. -/
def fragmentsText (fragments : List Fragment) : String :=
  String.join (fragments.map Fragment.text)

/-- The identifiers of code in fragments. -/
def fragmentNames (fragments : List Fragment) : List String :=
  fragments.filterMap Fragment.name?

@[simp] theorem fragmentsText_nil : fragmentsText [] = "" := rfl

@[simp] theorem fragmentsText_code (text : String) (rest : List Fragment) :
    fragmentsText (.code text :: rest) = text ++ fragmentsText rest := by
  simp [fragmentsText, Fragment.text, String.join_cons]

@[simp] theorem fragmentsText_name (ident : String) (rest : List Fragment) :
    fragmentsText (.name ident :: rest) = ident ++ fragmentsText rest := by
  simp [fragmentsText, Fragment.text, String.join_cons]

@[simp] theorem fragmentsText_append (xs ys : List Fragment) :
    fragmentsText (xs ++ ys) = fragmentsText xs ++ fragmentsText ys := by
  simp [fragmentsText, String.join_append]

@[simp] theorem fragmentNames_nil : fragmentNames [] = [] := rfl

@[simp] theorem fragmentNames_code (text : String) (rest : List Fragment) :
    fragmentNames (.code text :: rest) = fragmentNames rest := rfl

@[simp] theorem fragmentNames_name (ident : String) (rest : List Fragment) :
    fragmentNames (.name ident :: rest) = ident :: fragmentNames rest := rfl

@[simp] theorem fragmentNames_append (xs ys : List Fragment) :
    fragmentNames (xs ++ ys) = fragmentNames xs ++ fragmentNames ys :=
  List.filterMap_append

namespace Go

/-- `pointer` for a type in fragments. -/
def pointerFragments (fragments : List Fragment) : List Fragment :=
  if pointer (fragmentsText fragments) = fragmentsText fragments then fragments else .code "*" :: fragments

theorem text_pointerFragments (fragments : List Fragment) :
    fragmentsText (pointerFragments fragments) = pointer (fragmentsText fragments) := by
  unfold pointerFragments
  split
  · rename_i heq
    exact heq.symm
  · rename_i hne
    unfold pointer at hne ⊢
    split at hne
    · exact absurd rfl hne
    · rename_i hplain
      rw [if_neg hplain, fragmentsText_code]

/-- The spelling of a type, with the packages and types that it names. -/
def typeFragments : DataType → List Fragment
  | .string => [.name "string"]
  | .integer => [.name "int64"]
  | .double => [.name "float64"]
  | .float => [.name "float32"]
  | .boolean => [.name "bool"]
  | .void => [.code "struct\x7b\x7d"]
  | .null | .any => [.name "any"]
  | .date => [.name "time", .code ".Time"]
  | .array item => .code "[]" :: typeFragments item
  | .map key value => [.code "map[", .name (keyText key), .code "]"] ++ typeFragments value
  | .promise result => typeFragments result
  | .union members =>
    match _h : nullableInner? members with
    | some inner => pointerFragments (typeFragments inner)
    | none => [.name "any"]
  | .named ref => [.name ref.name]
  | .record _ => [.code "map[", .name "string", .code "]", .name "any"]
termination_by t => sizeOf t
decreasing_by
  all_goals first | decreasing_tactic | exact sizeOf_lt_of_nullableInner? _h

theorem text_typeFragments (type : DataType) : fragmentsText (typeFragments type) = typeText type := by
  fun_induction typeFragments type <;> unfold typeText
  case case13 members inner hinner ih =>
    rw [text_pointerFragments, ih]
    split <;> simp_all
  case case14 members hnone =>
    split <;> simp_all
  all_goals simp_all [String.append_assoc]

end Go

/-! ## Parameters and arguments -/

/-- A parameter as a stub declares it. -/
structure ParamEntry where
  /-- What stands in front of the identifier. -/
  lead : String
  ident : String
  /-- What stands between the identifier and the default. -/
  annotation : String
  default? : Option String
  /-- Whether the default is that of the language and not written out. -/
  implied : Bool

def ParamEntry.text (e : ParamEntry) : String :=
  e.lead ++ e.ident ++ e.annotation ++
    match e.default?, e.implied with
    | some value, false => " = " ++ value
    | _, _ => ""

/-- An entry with its type behind a colon. A parameter that may be left out along with all that follow gets
the default of the source, or the word for no value. -/
def trailingEntry (type optionalType nothing ident : String) (value? : Option String) (trailing : Bool) :
    ParamEntry :=
  match trailing, value? with
  | true, some value => ⟨"", ident, ": " ++ type, some value, false⟩
  | true, none => ⟨"", ident, ": " ++ optionalType, some nothing, false⟩
  | false, _ => ⟨"", ident, ": " ++ type, none, false⟩

/-- The entry for a parameter under its identifier. `trailing` says whether it and all parameters after it may
be left out. -/
def Target.entry (target : Target) (p : Parameter) (ident : String) (trailing : Bool) : ParamEntry :=
  match target with
  | .typeScript =>
    let type := ": " ++ TypeScript.typeText p.type
    match p.defaultValue with
    | some value => ⟨"", ident, type, some (TypeScript.literalText value), false⟩
    | none => ⟨"", ident, (if p.optional then "?" else "") ++ type, none, false⟩
  | .javaScript => ⟨"", ident, "", p.defaultValue.map TypeScript.literalText, false⟩
  | .python =>
    let type := Python.typeText p.type
    trailingEntry type (Python.optionalText type) "None" ident (p.defaultValue.map Python.literalText) trailing
  | .swift =>
    let type := Swift.typeText p.type
    trailingEntry type (nullableText Swift.topTypes type) "nil" ident (p.defaultValue.map Swift.literalText)
      trailing
  | .dart =>
    let type := Dart.typeText p.type
    match trailing, p.defaultValue with
    | true, some value => ⟨type ++ " ", ident, "", some (Dart.literalText value), false⟩
    -- A parameter in brackets without a default of its own is `null` where it is left out.
    | true, none => ⟨nullableText Dart.topTypes type ++ " ", ident, "", some "null", true⟩
    | false, _ => ⟨type ++ " ", ident, "", none, false⟩
  | .kotlin =>
    let type := Kotlin.typeText p.type
    trailingEntry type (nullableText Kotlin.topTypes type) "null" ident
      (p.defaultValue.map (Kotlin.literalText (p.type.nullableInner?.getD p.type))) trailing
  | .go =>
    let type := Go.typeText p.type
    ⟨"", ident, " " ++ (if p.optional && !Text.startsWith type "*" then "*" ++ type else type), none, false⟩

/-- The words that identifiers of parameters stay clear of. -/
def Target.avoided : Target → List String
  | .go => Go.reserved ++ Go.bodyNames
  | target => target.emitter.reserved

/-- The identifiers of a parameter list. -/
def Target.idents (target : Target) (params : List Parameter) : List String :=
  paramIdents target.avoided params

/-- The entries for a parameter list. -/
def Target.entries (target : Target) (params : List Parameter) : List ParamEntry :=
  ((params.zip (target.idents params)).zip (trailingOptional params)).map fun ((p, ident), trailing) =>
    target.entry p ident trailing

/-- The text of a parameter list. In Dart the entries that have a default stand in brackets, behind the
others. -/
def Target.entriesText (target : Target) (entries : List ParamEntry) : String :=
  match target with
  | .dart =>
    let required := entries.filter fun e => e.default?.isNone
    let optional := entries.filter fun e => e.default?.isSome
    commaSeparated (required.map ParamEntry.text ++
      if optional.isEmpty then [] else ["[" ++ commaSeparated (optional.map ParamEntry.text) ++ "]"])
  | _ => commaSeparated (entries.map ParamEntry.text)

/-- A parameter as the call of a stub passes it on. -/
structure Argument where
  ident : String
  /-- The function that the parameter goes through. -/
  wrapper? : Option String

def Argument.text (a : Argument) : String :=
  match a.wrapper? with
  | some wrapper => wrapper ++ "(" ++ a.ident ++ ")"
  | none => a.ident

/-- The argument for a parameter under its identifier. -/
def Target.argument (target : Target) (p : Parameter) (ident : String) : Argument :=
  ⟨ident, if target = .go ∧ p.optional then some "optional" else none⟩

/-- The arguments for a parameter list. -/
def Target.arguments (target : Target) (params : List Parameter) : List Argument :=
  (params.zip (target.idents params)).map fun (p, ident) => target.argument p ident

/-! ## Stubs -/

/-- The lines of a method in parts. -/
structure Stub where
  /-- The lines above the signature. -/
  above : List String
  /-- The signature up to its parameter list. -/
  head : String
  entries : List ParamEntry
  /-- The signature behind its parameter list. -/
  result : String
  /-- The lines between the signature and the call. -/
  inner : List String
  /-- The call up to the name on the wire. -/
  callee : List Fragment
  wireName : String
  /-- What stands between the name on the wire and the arguments. -/
  middle : String
  args : List Argument
  closing : String
  /-- The lines below the call. -/
  below : List String

/-- What stands behind the opening quotation mark in the line with the call. -/
def Stub.quotedOn (stub : Stub) : String :=
  stub.wireName ++ "\"" ++ stub.middle ++ commaSeparated (stub.args.map Argument.text) ++ stub.closing

def Stub.callLine (stub : Stub) : String :=
  fragmentsText stub.callee ++ "\"" ++ stub.quotedOn

def Stub.signature (target : Target) (stub : Stub) : String :=
  stub.head ++ "(" ++ target.entriesText stub.entries ++ ")" ++ stub.result

def Stub.lines (target : Target) (stub : Stub) : List String :=
  stub.above ++ [stub.signature target] ++ stub.inner ++ [stub.callLine] ++ stub.below

/-- The identifiers that the call refers to besides the parameters. -/
def Stub.references (stub : Stub) : List String :=
  fragmentNames stub.callee ++ stub.args.filterMap Argument.wrapper?

/-- The stub of a method. Only where exported names have a spelling of their own, the method goes by
`exported`. -/
def Target.stub (target : Target) (className : String) (m : Method) (exported : String) : Stub :=
  let returns := m.returns.awaited
  let idents := target.idents m.params
  let entries := target.entries m.params
  let args := target.arguments m.params
  let wireName := qualifiedName className m.name
  match target with
  | .typeScript =>
    { above := docLines m.docs .block "  "
      head := "  static async " ++ m.name
      entries
      result := ": Promise<" ++ TypeScript.typeText returns ++ "> \x7b"
      inner := []
      callee := [.code ("    " ++ (if returns.isVoid then "" else "return ") ++ "await "), .name className,
        .code ".remote.call("]
      wireName
      middle := if (commaSeparated idents).isEmpty then "" else ", "
      args
      closing := ");"
      below := ["  \x7d"] }
  | .javaScript =>
    { above := docLines (some (JavaScript.methodDocs m idents)) .block "  "
      head := "  static async " ++ m.name
      entries
      result := " \x7b"
      inner := []
      callee := [.code ("    " ++ (if returns.isVoid then "" else "return ") ++ "await "), .name className,
        .code ".remote.call("]
      wireName
      middle := if (commaSeparated idents).isEmpty then "" else ", "
      args
      closing := ");"
      below := ["  \x7d"] }
  | .python =>
    { above := ["", "    @staticmethod"]
      head := "    def " ++ safeIdent Python.reserved m.name
      entries
      result := " -> " ++ Python.typeText returns ++ ":"
      inner := docLines m.docs .docstring "        "
      callee := [.code (if returns.isVoid then "        " else "        response = "), .name className,
        .code ".remote.call("]
      wireName
      middle := ", ["
      args
      closing := "])"
      below := if returns.isVoid then [] else
        ["        return " ++ (Python.hydrated? "response" 0 returns).getD "response"] }
  | .swift =>
    { above := [""] ++ docLines m.docs .tripleSlash "    "
      head := "    public static func " ++ safeIdent Swift.reserved m.name
      entries
      result := " async throws" ++ if returns.isVoid then " \x7b" else
        " -> " ++ Swift.typeText returns ++ " \x7b"
      inner := []
      callee := [.code ("        " ++ if returns.isVoid then "try await " else "return try await "),
        .name "remote", .code ((if returns.isVoid then ".callVoid" else ".call") ++ "(method: ")]
      wireName
      middle := ", args: ["
      args
      closing := "])"
      below := ["    \x7d"] }
  | .dart =>
    { above := [""] ++ docLines m.docs .tripleSlash "  "
      head := "  static Future<" ++ Dart.typeText returns ++ "> " ++ safeIdent Dart.reserved m.name
      entries
      result := " async \x7b"
      inner := []
      callee := (if returns.isVoid then [.code "    "] else
        [.code "    final ", .name "response", .code " = "]) ++
          [.code "await ", .name "remote", .code ".call("]
      wireName
      middle := ", ["
      args
      closing := "]);"
      below := (if returns.isVoid then [] else
        ["    return " ++ Dart.decoded "response" 0 returns ++ ";"]) ++ ["  \x7d"] }
  | .kotlin =>
    { above := [""] ++ docLines m.docs .block "        "
      head := "        suspend fun " ++ safeIdent Kotlin.reserved m.name
      entries
      result := if returns.isVoid then " \x7b" else ": " ++ Kotlin.typeText returns ++ " ="
      inner := []
      callee := [.code "            ", .name "remote",
        .code (if returns.isVoid then ".callVoid(" else ".call(")]
      wireName
      middle := (if returns.isVoid then ", " else
        ", object : TypeToken<" ++ Kotlin.typeText returns ++ ">() \x7b\x7d.type, ") ++
          if idents.isEmpty then "emptyList()" else "listOf("
      args
      closing := (if idents.isEmpty then "" else ")") ++ ")"
      below := if returns.isVoid then ["        \x7d"] else [] }
  | .go =>
    { above := [""] ++ docLines m.docs .doubleSlash ""
      head := "func (c *" ++ className ++ ") " ++ exported
      entries
      result := if returns.isVoid then " error \x7b" else " (" ++ Go.typeText returns ++ ", error) \x7b"
      inner := []
      callee := [.code "\treturn "] ++ (if returns.isVoid then [.name "callVoid"] else
        [.name "call", .code "["] ++ Go.typeFragments returns ++ [.code "]"]) ++
          [.code "(", .name "c", .code ".remote, "]
      wireName
      middle := if (commaSeparated (args.map Argument.text)).isEmpty then "" else ", "
      args
      closing := ")"
      below := ["\x7d"] }

/-- The lines of a method. -/
def Target.methodLines (target : Target) (className : String) (m : Method) (exported : String) :
    List String :=
  match target with
  | .typeScript => TypeScript.methodLines className m
  | .javaScript => JavaScript.methodLines className m
  | .python => Python.methodLines className m
  | .swift => Swift.methodLines className m
  | .dart => Dart.methodLines className m
  | .kotlin => Kotlin.methodLines className m
  | .go => Go.methodLines className m exported

/-! ## Parameters of a stub -/

theorem length_trailingOptional (params : List Parameter) : (trailingOptional params).length = params.length := by
  induction params with
  | nil => rfl
  | cons p rest ih => simp [trailingOptional, ih]

theorem length_idents (target : Target) (params : List Parameter) :
    (target.idents params).length = params.length := by
  unfold Target.idents paramIdents
  rw [length_safeIdents, List.length_map]

/-- Where the text of an entry does not hang on the parameters behind it, it is told by the parameter and its
identifier. -/
theorem map_text_entries {target : Target} {text : Parameter → String → String}
    (h : ∀ p ident trailing, (target.entry p ident trailing).text = text p ident) (params : List Parameter) :
    (target.entries params).map ParamEntry.text =
      (params.zip (target.idents params)).map fun (p, ident) => text p ident := by
  have hlength : (params.zip (target.idents params)).length ≤ (trailingOptional params).length := by
    rw [List.length_zip, length_idents, length_trailingOptional, Nat.min_self]
  unfold Target.entries
  conv_rhs => rw [← List.map_fst_zip hlength]
  rw [List.map_map, List.map_map]
  exact List.map_congr_left fun _ _ => h _ _ _

/-- Except in Dart, the entries stand side by side. -/
theorem entriesText_of_text {target : Target} (hdart : target ≠ .dart)
    {text : (Parameter × String) × Bool → String}
    (h : ∀ p ident trailing, (target.entry p ident trailing).text = text ((p, ident), trailing))
    (params : List Parameter) :
    target.entriesText (target.entries params) =
      commaSeparated (((params.zip (target.idents params)).zip (trailingOptional params)).map text) := by
  have hentries : (target.entries params).map ParamEntry.text =
      ((params.zip (target.idents params)).zip (trailingOptional params)).map text := by
    unfold Target.entries
    rw [List.map_map]
    exact List.map_congr_left fun _ _ => h _ _ _
  rw [← hentries]
  cases target with
  | dart => contradiction
  | _ => rfl

/-- Except in Go, the arguments are the identifiers themselves. -/
theorem map_text_arguments {target : Target} (h : target ≠ .go) (params : List Parameter) :
    (target.arguments params).map Argument.text = target.idents params := by
  have hlength : (target.idents params).length ≤ params.length := by rw [length_idents]
  unfold Target.arguments
  rw [List.map_map]
  conv_rhs => rw [← List.map_snd_zip hlength]
  refine List.map_congr_left fun _ _ => ?_
  simp [Target.argument, Argument.text, h]

/-- A text behind a comma, which only stands where there is a text. -/
theorem ite_isEmpty (args : String) :
    (if args.isEmpty then "" else ", " ++ args) = (if args.isEmpty then "" else ", ") ++ args := by
  split
  · rename_i hempty
    rw [String.isEmpty_iff.mp hempty]
    rfl
  · rfl

/-! ## Lines of a method -/

namespace TypeScript

theorem text_entry (p : Parameter) (ident : String) (trailing : Bool) :
    (Target.typeScript.entry p ident trailing).text = paramText p ident := by
  unfold paramText
  cases hp : p.defaultValue <;> simp [Target.entry, hp, ParamEntry.text, String.append_assoc]

theorem methodLines_eq_lines (className : String) (m : Method) (exported : String) :
    methodLines className m = (Target.typeScript.stub className m exported).lines .typeScript := by
  have hentries := map_text_entries text_entry m.params
  have hargs := map_text_arguments (show Target.typeScript ≠ .go by decide) m.params
  have hidents : Target.typeScript.idents m.params = paramIdents reserved m.params := rfl
  rw [hidents] at hentries hargs
  unfold methodLines furtherArguments Stub.lines Stub.signature Stub.callLine Stub.quotedOn Target.entriesText
    Target.stub
  simp only [hentries, hargs, hidents, ite_isEmpty, List.append_assoc, List.cons_append, List.nil_append]
  simp only [List.append_cancel_left_eq, List.cons.injEq, fragmentsText_code, fragmentsText_name,
    fragmentsText_nil, ← String.toList_inj, String.toList_append]
  simp

end TypeScript

namespace JavaScript

theorem text_entry (p : Parameter) (ident : String) (trailing : Bool) :
    (Target.javaScript.entry p ident trailing).text = paramText p ident := by
  unfold paramText
  cases hp : p.defaultValue <;> simp [Target.entry, hp, ParamEntry.text, String.append_assoc]

theorem methodLines_eq_lines (className : String) (m : Method) (exported : String) :
    methodLines className m = (Target.javaScript.stub className m exported).lines .javaScript := by
  have hentries := map_text_entries text_entry m.params
  have hargs := map_text_arguments (show Target.javaScript ≠ .go by decide) m.params
  have hidents : Target.javaScript.idents m.params = paramIdents TypeScript.reserved m.params := rfl
  rw [hidents] at hentries hargs
  unfold methodLines TypeScript.furtherArguments Stub.lines Stub.signature Stub.callLine Stub.quotedOn
    Target.entriesText Target.stub
  simp only [hentries, hargs, hidents, ite_isEmpty, List.append_assoc, List.cons_append, List.nil_append]
  simp only [List.append_cancel_left_eq, List.cons.injEq, fragmentsText_code, fragmentsText_name,
    fragmentsText_nil, ← String.toList_inj, String.toList_append]
  simp

end JavaScript

namespace Python

theorem entriesText_eq (params : List Parameter) :
    Target.python.entriesText (Target.python.entries params) = paramsText params := by
  unfold paramsText
  refine entriesText_of_text (by decide) ?_ params
  intro p ident trailing
  cases trailing <;> cases hp : p.defaultValue <;>
    simp [Target.entry, trailingEntry, hp, ParamEntry.text, String.append_assoc]

theorem methodLines_eq_lines (className : String) (m : Method) (exported : String) :
    methodLines className m = (Target.python.stub className m exported).lines .python := by
  have hargs := map_text_arguments (show Target.python ≠ .go by decide) m.params
  have hidents : Target.python.idents m.params = paramIdents reserved m.params := rfl
  rw [hidents] at hargs
  unfold methodLines Stub.lines Stub.signature Stub.callLine Stub.quotedOn Target.stub
  simp only [entriesText_eq, hargs]
  cases m.returns.awaited.isVoid <;> simp [← String.toList_inj]

end Python

namespace Swift

theorem entriesText_eq (params : List Parameter) :
    Target.swift.entriesText (Target.swift.entries params) = paramsText params := by
  unfold paramsText
  refine entriesText_of_text (by decide) ?_ params
  intro p ident trailing
  cases trailing <;> cases hp : p.defaultValue <;>
    simp [Target.entry, trailingEntry, hp, ParamEntry.text, String.append_assoc]

theorem methodLines_eq_lines (className : String) (m : Method) (exported : String) :
    methodLines className m = (Target.swift.stub className m exported).lines .swift := by
  have hargs := map_text_arguments (show Target.swift ≠ .go by decide) m.params
  have hidents : Target.swift.idents m.params = paramIdents reserved m.params := rfl
  rw [hidents] at hargs
  unfold methodLines Stub.lines Stub.signature Stub.callLine Stub.quotedOn Target.stub
  simp only [entriesText_eq, hargs]
  cases m.returns.awaited.isVoid <;> simp [← String.toList_inj]

end Swift

namespace Kotlin

theorem entriesText_eq (params : List Parameter) :
    Target.kotlin.entriesText (Target.kotlin.entries params) = paramsText params := by
  unfold paramsText
  refine entriesText_of_text (by decide) ?_ params
  intro p ident trailing
  cases trailing <;> cases hp : p.defaultValue <;>
    simp [Target.entry, trailingEntry, hp, ParamEntry.text, String.append_assoc]

theorem methodLines_eq_lines (className : String) (m : Method) (exported : String) :
    methodLines className m = (Target.kotlin.stub className m exported).lines .kotlin := by
  have hargs := map_text_arguments (show Target.kotlin ≠ .go by decide) m.params
  have hidents : Target.kotlin.idents m.params = paramIdents reserved m.params := rfl
  rw [hidents] at hargs
  unfold methodLines Stub.lines Stub.signature Stub.callLine Stub.quotedOn Target.stub
  simp only [entriesText_eq, hargs, hidents]
  cases paramIdents reserved m.params <;> cases m.returns.awaited.isVoid <;>
    simp [← String.toList_inj, commaSeparated]

end Kotlin

namespace Dart

/-- An entry has a default where it stands in brackets. -/
theorem isSome_default?_entry (p : Parameter) (ident : String) (trailing : Bool) :
    (Target.dart.entry p ident trailing).default?.isSome = trailing := by
  cases trailing <;> cases hp : p.defaultValue <;> simp [Target.entry, hp]

theorem entriesText_eq (params : List Parameter) :
    Target.dart.entriesText (Target.dart.entries params) = paramsText params := by
  unfold Target.entriesText Target.entries paramsText
  -- What is asked of the entries is asked of the parameters.
  simp only [List.filter_map, List.map_map, Function.comp_def, ← Option.not_isSome, isSome_default?_entry,
    List.isEmpty_map]
  have hidents : Target.dart.idents params = paramIdents reserved params := rfl
  rw [hidents]
  generalize (params.zip (paramIdents reserved params)).zip (trailingOptional params) = all
  have hrequired : (all.filter fun x => !x.2).map (fun x => (Target.dart.entry x.1.1 x.1.2 x.2).text) =
      (all.filter fun x => !x.2).map fun x => typeText x.1.1.type ++ " " ++ x.1.2 := by
    refine List.map_congr_left ?_
    rintro ⟨⟨p, ident⟩, trailing⟩ hx
    have htrailing : trailing = false := by simpa using (List.mem_filter.mp hx).2
    simp [Target.entry, ParamEntry.text, htrailing]
  have hoptional : (all.filter fun x => x.2).map (fun x => (Target.dart.entry x.1.1 x.1.2 x.2).text) =
      (all.filter fun x => x.2).map fun x =>
        match x.1.1.defaultValue with
        | some value => typeText x.1.1.type ++ " " ++ x.1.2 ++ " = " ++ literalText value
        | none => nullableText topTypes (typeText x.1.1.type) ++ " " ++ x.1.2 := by
    refine List.map_congr_left ?_
    rintro ⟨⟨p, ident⟩, trailing⟩ hx
    have htrailing : trailing = true := by simpa using (List.mem_filter.mp hx).2
    cases hp : p.defaultValue <;> simp [Target.entry, ParamEntry.text, htrailing, hp, String.append_assoc]
  have hbrackets := congrArg (fun texts => if (all.filter fun x => x.2).isEmpty then [] else
    ["[" ++ commaSeparated texts ++ "]"]) hoptional
  exact congrArg commaSeparated (congrArg₂ (· ++ ·) hrequired hbrackets)

theorem methodLines_eq_lines (className : String) (m : Method) (exported : String) :
    methodLines className m = (Target.dart.stub className m exported).lines .dart := by
  have hargs := map_text_arguments (show Target.dart ≠ .go by decide) m.params
  have hidents : Target.dart.idents m.params = paramIdents reserved m.params := rfl
  rw [hidents] at hargs
  unfold methodLines Stub.lines Stub.signature Stub.callLine Stub.quotedOn Target.stub
  simp only [entriesText_eq, hargs]
  cases m.returns.awaited.isVoid <;> simp [← String.toList_inj]

end Dart

namespace Go

theorem text_entry (p : Parameter) (ident : String) (trailing : Bool) :
    (Target.go.entry p ident trailing).text =
      ident ++ " " ++ (if p.optional && !Text.startsWith (typeText p.type) "*" then "*" ++ typeText p.type
        else typeText p.type) := by
  simp [Target.entry, ParamEntry.text, String.append_assoc]

theorem entriesText_eq (params : List Parameter) :
    Target.go.entriesText (Target.go.entries params) = paramsText params (Target.go.idents params) := by
  unfold Target.entriesText paramsText
  rw [map_text_entries text_entry]

theorem text_arguments (params : List Parameter) :
    commaSeparated ((Target.go.arguments params).map Argument.text) =
      argumentsText params (Target.go.idents params) := by
  unfold Target.arguments argumentsText
  rw [List.map_map]
  refine congrArg commaSeparated (List.map_congr_left ?_)
  rintro ⟨p, ident⟩ -
  cases hp : p.optional <;> simp [Target.argument, Argument.text, hp]

theorem methodLines_eq_lines (className : String) (m : Method) (exported : String) :
    methodLines className m exported = (Target.go.stub className m exported).lines .go := by
  have hidents : Target.go.idents m.params = paramIdents (reserved ++ bodyNames) m.params := rfl
  unfold methodLines methodParams Stub.lines Stub.signature Stub.callLine Stub.quotedOn Target.stub
  simp only [entriesText_eq, text_arguments, hidents, ite_isEmpty, List.append_assoc, List.cons_append,
    List.nil_append]
  cases m.returns.awaited.isVoid <;>
    simp only [Bool.false_eq_true, reduceIte, List.append_cancel_left_eq, List.cons_append, List.nil_append,
      List.cons.injEq, fragmentsText_code, fragmentsText_name, fragmentsText_nil, fragmentsText_append,
      text_typeFragments, ← String.toList_inj, String.toList_append] <;>
    simp

end Go

/-- The lines of a method are those of its stub. -/
theorem methodLines_eq_lines (target : Target) (className : String) (m : Method) (exported : String) :
    target.methodLines className m exported = (target.stub className m exported).lines target := by
  cases target with
  | typeScript => exact TypeScript.methodLines_eq_lines className m exported
  | javaScript => exact JavaScript.methodLines_eq_lines className m exported
  | python => exact Python.methodLines_eq_lines className m exported
  | swift => exact Swift.methodLines_eq_lines className m exported
  | dart => exact Dart.methodLines_eq_lines className m exported
  | kotlin => exact Kotlin.methodLines_eq_lines className m exported
  | go => exact Go.methodLines_eq_lines className m exported

/-! ## Stubs of a client -/

theorem length_exportedAfter (taken names : List String) :
    (Go.exportedAfter taken names).length = names.length := by
  induction names generalizing taken with
  | nil => rfl
  | cons name rest ih => simp [Go.exportedAfter, ih]

theorem infix_flatMap {α β : Type} {f : α → List β} {xs : List α} {x : α} (h : x ∈ xs) :
    f x <:+: xs.flatMap f :=
  List.infix_of_mem_flatten (List.mem_map_of_mem h)

/-- Text that is built after a step that may fail. -/
theorem exists_of_map_ok {ε α β : Type} {x : Except ε α} {f : α → β} {b : β}
    (h : (do let a ← x; return f a) = Except.ok b) : ∃ a, b = f a := by
  cases x with
  | error e => cases h
  | ok a =>
    cases h
    exact ⟨a, rfl⟩

/-- The names of the stubs for the methods of a class. -/
def Target.stubNames (target : Target) (names : List String) : List String :=
  match target with
  | .typeScript | .javaScript => names
  | .go => Go.exportedNames names
  | target => names.map (safeIdent target.emitter.reserved)

theorem length_stubNames (target : Target) (names : List String) :
    (target.stubNames names).length = names.length := by
  cases target with
  | typeScript | javaScript => rfl
  | go => exact length_exportedAfter [] names
  | _ => exact List.length_map _

/-- The client of a service has the lines of the stub of each exposed method, under the name of that stub. -/
theorem clientText_stubs {target : Target} {s : Service} {file : FilePlan} {metadata : Metadata} {text : String}
    (h : target.emitter.clientText s file metadata = .ok text) :
    ∃ lines, text = unlines lines ∧
      ∀ m ident, (m, ident) ∈ s.api.exposedMethods.zip (target.stubNames (s.api.exposedMethods.map (·.name))) →
        (target.stub s.api.name m ident).lines target <:+: lines := by
  simp only [← methodLines_eq_lines]
  -- Every client has a part that is made of the stubs one after the other.
  cases target with
  | typeScript =>
    obtain ⟨declarations, rfl⟩ := exists_of_map_ok h
    refine ⟨_, rfl, fun m ident hm => (Text.infix_intercalate ?_).trans ⟨_, _, rfl⟩⟩
    exact List.mem_map.mpr ⟨m, (List.of_mem_zip hm).1, rfl⟩
  | javaScript =>
    obtain ⟨declarations, rfl⟩ := exists_of_map_ok h
    refine ⟨_, rfl, fun m ident hm => (Text.infix_intercalate ?_).trans ⟨_, _, rfl⟩⟩
    exact List.mem_map.mpr ⟨m, (List.of_mem_zip hm).1, rfl⟩
  | python =>
    obtain ⟨declarations, rfl⟩ := exists_of_map_ok h
    refine ⟨_, rfl, fun m ident hm => ?_⟩
    exact (infix_flatMap (f := Python.methodLines s.api.name) (List.of_mem_zip hm).1).trans ⟨_, _, rfl⟩
  | swift =>
    obtain ⟨declarations, rfl⟩ := exists_of_map_ok h
    refine ⟨_, rfl, fun m ident hm => ?_⟩
    exact (infix_flatMap (f := Swift.methodLines s.api.name) (List.of_mem_zip hm).1).trans ⟨_, _, rfl⟩
  | dart =>
    obtain ⟨declarations, rfl⟩ := exists_of_map_ok h
    refine ⟨_, rfl, fun m ident hm => ?_⟩
    exact (infix_flatMap (f := Dart.methodLines s.api.name) (List.of_mem_zip hm).1).trans ⟨_, _, rfl⟩
  | kotlin =>
    obtain ⟨declarations, rfl⟩ := exists_of_map_ok h
    refine ⟨_, rfl, fun m ident hm => ?_⟩
    exact (infix_flatMap (f := Kotlin.methodLines s.api.name) (List.of_mem_zip hm).1).trans ⟨_, _, rfl⟩
  | go =>
    obtain ⟨declarations, rfl⟩ := exists_of_map_ok h
    refine ⟨_, rfl, fun m ident hm => ?_⟩
    exact (infix_flatMap (f := fun x : Method × String => Go.methodLines s.api.name x.1 x.2) hm).trans
      (List.suffix_append _ _).isInfix

/-- The client of a service has a stub for each exposed method. -/
theorem clientText_lines {target : Target} {s : Service} {file : FilePlan} {metadata : Metadata} {text : String}
    (h : target.emitter.clientText s file metadata = .ok text) {m : Method} (hm : m ∈ s.api.exposedMethods) :
    ∃ exported lines, text = unlines lines ∧
      (target.stub s.api.name m exported).lines target <:+: lines := by
  obtain ⟨lines, htext, hstubs⟩ := clientText_stubs h
  -- There are as many names as methods, so that none is left out.
  have hlength : s.api.exposedMethods.length ≤
      (target.stubNames (s.api.exposedMethods.map (·.name))).length := by
    rw [length_stubNames, List.length_map]
  rw [← List.map_fst_zip hlength] at hm
  obtain ⟨⟨m, exported⟩, hpair, rfl⟩ := List.mem_map.mp hm
  exact ⟨exported, lines, htext, hstubs m exported hpair⟩

end ServiceStubs
