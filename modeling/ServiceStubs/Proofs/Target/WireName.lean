import ServiceStubs.Proofs.Target.Stub
import ServiceStubs.Proofs.Text.StringLiteral

/-!
# Names on the wire

A stub passes the name of its method to the runtime in a string literal. The name is written between the
quotation marks as it is. So the literal denotes the name where each character of the name stands for itself in
a literal of the target; what else it may denote is left to the target's rules for escapes and interpolation.

* `Target.literalRules` are the rules of the seven targets;
* `stub_passesName_iff` says when a stub passes the name of its method;
* `stub_not_passesName` are methods of which the stubs pass something else.
-/

namespace ServiceStubs

open Text (LiteralRules utf16Units utf8Units isScalar braced?)

/-! ## The rules of the targets -/

/-- What the rules take from the tables of Unicode. -/
structure UnicodeData where
  isLetter : Char → Bool
  /-- The code point with a name. -/
  named : List Char → Option Nat

variable (data : UnicodeData)

def apostrophe : Char := Char.ofNat 39

def backquote : Char := Char.ofNat 96

def isOctal (c : Char) : Bool :=
  decide ('0' ≤ c ∧ c ≤ '7')

/-- The number that octal digits write. -/
def octalNumber (digits : List Char) : Nat :=
  digits.foldl (fun n c => 8 * n + (c.toNat - '0'.toNat)) 0

/-- Literals of TypeScript and JavaScript. A backslash hides the end of a line, and is nothing before other
characters. Octal escapes are not allowed in modules. -/
def scriptLiterals : LiteralRules where
  encode := utf16Units
  plain c _ := c ∉ ['\\', '\n', '\r']
  simple := [('b', 8), ('t', 9), ('n', 10), ('v', 11), ('f', 12), ('r', 13)]
  units := [('x', 2), ('u', 4)]
  points := []
  bracedDigits n := decide (0 < n)
  isPoint n := decide (n ≤ 0x10ffff)
  other c rest :=
    if c = '0' ∧ !rest.head?.any Char.isDigit then some ([0], 1)
    else if c.isDigit then none
    else if c = '\r' ∧ rest.head? = some '\n' then some ([], 2)
    else if c ∈ ['\n', '\r', '\u2028', '\u2029'] then some ([], 1)
    else some (utf16Units c.toNat, 1)
  encode_length := Text.length_utf16Units
  encode_quote := by decide
  points_wide := by simp
  bracedDigits_pos := rfl
  other_length := by
    intro c rest value n h
    have hpos := (Text.length_utf16Units c.toNat).1
    split_ifs at h <;> cases h <;> simp
    omega

/-- Literals of Python. A backslash that begins no escape stands for itself. -/
def pythonLiterals : LiteralRules where
  encode n := [n]
  plain c following :=
    if c = '\\' then
      following.head?.any fun d =>
        d ∉ [apostrophe, '\\', '"', '\n', '\r', 'a', 'b', 'f', 'n', 'r', 't', 'v', 'x', 'N', 'u', 'U'] && !isOctal d
    else c ∉ ['\n', '\r', '\x00']
  simple := [('\\', 92), (apostrophe, 39), ('"', 34), ('a', 7), ('b', 8), ('f', 12), ('n', 10), ('r', 13),
    ('t', 9), ('v', 11)]
  units := [('x', 2), ('u', 4)]
  points := [('U', 8)]
  bracedDigits _ := false
  isPoint n := decide (n ≤ 0x10ffff)
  other c rest :=
    if c = '\r' ∧ rest.head? = some '\n' then some ([], 2)
    else if c = '\n' ∨ c = '\r' then some ([], 1)
    else if isOctal c then
      let digits := c :: (rest.take 2).takeWhile isOctal
      some ([octalNumber digits], digits.length)
    else if c = 'N' then
      (braced? rest).bind fun name => (data.named name).map fun n => ([n], name.length + 3)
    else none
  encode_length := by simp
  encode_quote := rfl
  points_wide := by simp
  bracedDigits_pos := rfl
  other_length := by
    intro c rest value n h
    split_ifs at h
    · cases h; simp
    · cases h; simp
    · cases h; simp
    · obtain ⟨name, -, hname⟩ := Option.bind_eq_some_iff.mp h
      obtain ⟨code, -, hvalue⟩ := Option.map_eq_some_iff.mp hname
      cases hvalue
      simp

/-- Literals of Go. Octal and `x` escapes are for single bytes. -/
def goLiterals : LiteralRules where
  encode := utf8Units
  plain c _ := c ∉ ['\\', '\n', '\x00', '\ufeff']
  simple := [('a', 7), ('b', 8), ('f', 12), ('n', 10), ('r', 13), ('t', 9), ('v', 11), ('\\', 92), ('"', 34)]
  units := [('x', 2)]
  points := [('u', 4), ('U', 8)]
  bracedDigits _ := false
  isPoint := isScalar
  other c rest :=
    let digits := c :: rest.take 2
    if digits.length = 3 ∧ digits.all isOctal ∧ octalNumber digits < 256 then some ([octalNumber digits], 3)
    else none
  encode_length := Text.length_utf8Units
  encode_quote := by decide
  points_wide := by simp
  bracedDigits_pos := rfl
  other_length := by
    intro c rest value n h
    have hpos := (Text.length_utf8Units c.toNat).1
    dsimp only at h
    split_ifs at h
    cases h
    simp
    omega

/-- Literals of Dart. A dollar sign begins an interpolation, and a backslash is nothing before most
characters. -/
def dartLiterals : LiteralRules where
  encode := utf16Units
  plain c _ := c ∉ ['\\', '\n', '\r', '$']
  simple := [('n', 10), ('r', 13), ('f', 12), ('b', 8), ('t', 9), ('v', 11)]
  units := [('x', 2), ('u', 4)]
  points := []
  bracedDigits n := decide (0 < n ∧ n ≤ 6)
  isPoint n := decide (n ≤ 0x10ffff)
  other c _ := if c = '\n' ∨ c = '\r' then none else some (utf16Units c.toNat, 1)
  encode_length := Text.length_utf16Units
  encode_quote := by decide
  points_wide := by simp
  bracedDigits_pos := rfl
  other_length := by
    intro c rest value n h
    split_ifs at h
    cases h
    simp

/-- Whether a dollar sign in front of the text begins an interpolation in Kotlin: of a name, of a name between
backquotes, or of an expression in braces. -/
def kotlinTemplate : List Char → Bool
  | [] => false
  | c :: rest =>
    if c = backquote then
      let name := rest.takeWhile fun d => d ∉ [backquote, '\n', '\r']
      !name.isEmpty && (rest.drop name.length).head? == some backquote
    else c == '\x7b' || c == '_' || data.isLetter c

/-- Literals of Kotlin. -/
def kotlinLiterals : LiteralRules where
  encode := utf16Units
  plain c following := c ∉ ['\\', '\n', '\r'] && !(c == '$' && kotlinTemplate data following)
  simple := [('t', 9), ('b', 8), ('n', 10), ('r', 13), (apostrophe, 39), ('"', 34), ('\\', 92), ('$', 36)]
  units := [('u', 4)]
  points := []
  bracedDigits _ := false
  isPoint n := decide (n ≤ 0x10ffff)
  other _ _ := none
  encode_length := Text.length_utf16Units
  encode_quote := by decide
  points_wide := by simp
  bracedDigits_pos := rfl
  other_length := by simp

/-- Literals of Swift. Interpolations begin with a backslash; they are no escapes. -/
def swiftLiterals : LiteralRules where
  encode n := [n]
  plain c _ := c ∉ ['\\', '\n', '\r']
  simple := [('0', 0), ('\\', 92), ('t', 9), ('n', 10), ('r', 13), ('"', 34), (apostrophe, 39)]
  units := []
  points := []
  bracedDigits n := decide (0 < n ∧ n ≤ 8)
  isPoint := isScalar
  other _ _ := none
  encode_length := by simp
  encode_quote := rfl
  points_wide := by simp
  bracedDigits_pos := rfl
  other_length := by simp

def Target.literalRules (target : Target) : LiteralRules :=
  match target with
  | .typeScript | .javaScript => scriptLiterals
  | .python => pythonLiterals data
  | .swift => swiftLiterals
  | .dart => dartLiterals
  | .kotlin => kotlinLiterals data
  | .go => goLiterals

set_option maxRecDepth 8000 in
/-- Letters, digits and underscores stand for themselves in every target. -/
theorem plain_of_isWordChar (target : Target) {c : Char} (h : Text.isWordChar c = true) (following : List Char) :
    c ≠ '"' ∧ (target.literalRules data).plain c following = true := by
  have hne : ∀ d, Text.isWordChar d = false → c ≠ d := by
    rintro d hd rfl
    rw [h] at hd
    cases hd
  have hquote := hne '"' (by decide)
  have hbackslash := hne '\\' (by decide)
  have hfeed := hne '\n' (by decide)
  have hreturn := hne '\r' (by decide)
  have hdollar := hne '$' (by decide)
  have hnull := hne '\x00' (by decide)
  have hmark := hne '\ufeff' (by decide)
  refine ⟨hquote, ?_⟩
  cases target <;>
    simp [Target.literalRules, scriptLiterals, pythonLiterals, goLiterals, dartLiterals, kotlinLiterals,
      swiftLiterals, hbackslash, hfeed, hreturn, hdollar, hnull, hmark]

/-! ## Names that stubs pass -/

/-- What stands behind the literal in the line with the call. -/
def Stub.behindName (stub : Stub) : String :=
  stub.middle ++ commaSeparated (stub.args.map Argument.text) ++ stub.closing

/-- The literal in the call of the stub ends where its name does, and denotes this name. -/
def Stub.PassesName (target : Target) (stub : Stub) (name : String) : Prop :=
  (target.literalRules data).read stub.quotedOn.toList =
    some ((target.literalRules data).unitsOf name.toList, stub.behindName.toList)

/-- The stub passes its name if and only if each character of the name stands for itself. -/
theorem passesName_iff (target : Target) (stub : Stub) :
    stub.PassesName data target stub.wireName ↔
      ∀ before c after, stub.wireName.toList = before ++ c :: after →
        c ≠ '"' ∧
          (target.literalRules data).plain c (after ++ '"' :: stub.behindName.toList) = true := by
  have hquoted : stub.quotedOn.toList = stub.wireName.toList ++ '"' :: stub.behindName.toList := by
    simp [Stub.quotedOn, Stub.behindName]
  unfold Stub.PassesName
  rw [hquoted]
  exact (target.literalRules data).read_eq_some_iff _ _

/-- A dollar sign behind a backslash is read as one. -/
example : dartLiterals.read "S.a\\$b\", [])".toList = some ("S.a$b".toList.map Char.toNat, ", [])".toList) := by
  cbv

@[simp] theorem wireName_stub (target : Target) (className : String) (m : Method) (exported : String) :
    (target.stub className m exported).wireName = qualifiedName className m.name := by
  cases target <;> rfl

/-- The call of a stub has the name of class and method between quotation marks, and passes this name if and
only if each of its characters stands for itself in a literal of the target. Letters, digits, underscores and
the dot between the names do in every target; a dollar sign does except in Dart and Kotlin. -/
theorem stub_passesName_iff (target : Target) (className : String) (m : Method) (exported : String) :
    target.methodLines className m exported = (target.stub className m exported).lines target ∧
      (target.stub className m exported).callLine =
        fragmentsText (target.stub className m exported).callee ++ "\"" ++ qualifiedName className m.name ++ "\"" ++
          (target.stub className m exported).behindName ∧
      ((target.stub className m exported).PassesName data target (qualifiedName className m.name) ↔
        ∀ before c after, (qualifiedName className m.name).toList = before ++ c :: after →
          c ≠ '"' ∧ (target.literalRules data).plain c
            (after ++ '"' :: (target.stub className m exported).behindName.toList) = true) ∧
      ((∀ c ∈ className.toList ++ m.name.toList,
          Text.isWordChar c = true ∨ c = '$' ∧ target ≠ .dart ∧ target ≠ .kotlin) →
        (target.stub className m exported).PassesName data target (qualifiedName className m.name)) := by
  have hiff := passesName_iff data target (target.stub className m exported)
  rw [wireName_stub] at hiff
  refine ⟨methodLines_eq_lines target className m exported, ?_, hiff, ?_⟩
  · unfold Stub.callLine Stub.quotedOn Stub.behindName
    rw [wireName_stub]
    simp only [String.append_assoc]
  · intro hchars
    rw [hiff]
    intro before c after hname
    have hmem : c ∈ (qualifiedName className m.name).toList := by
      rw [hname]
      exact List.mem_append_right _ List.mem_cons_self
    -- The dot between the names stands for itself in every target.
    have hcases : c = '.' ∨ c ∈ className.toList ++ m.name.toList := by
      simp only [qualifiedName, String.toList_append, List.mem_append] at hmem ⊢
      rcases hmem with (hclass | hdot) | hmethod
      · exact .inr (.inl hclass)
      · exact .inl (List.mem_singleton.mp hdot)
      · exact .inr (.inr hmethod)
    rcases hcases with rfl | hc
    · refine ⟨by decide, ?_⟩
      cases target <;> rfl
    · rcases hchars c hc with hword | ⟨rfl, hdart, hkotlin⟩
      · exact plain_of_isWordChar data target hword _
      · refine ⟨by decide, ?_⟩
        cases target <;> first | rfl | contradiction

/-- A method without parameters, of the given name. -/
def namedMethod (name : String) : Method where
  name := name
  params := []
  returns := .void
  exposure := .rpc
  docs := none

/-- Tables that know the letters and no names. -/
def plainUnicode : UnicodeData where
  isLetter := Text.isAlphabetic
  named _ := none

/-- A dollar sign in an identifier is an interpolation in Dart and Kotlin, and a quotation mark in a name ends
the literal in every target. -/
theorem stub_not_passesName :
    ¬(Target.dart.stub "S" (namedMethod "a$b") "").PassesName plainUnicode .dart "S.a$b" ∧
      ¬(Target.kotlin.stub "S" (namedMethod "a$b") "").PassesName plainUnicode .kotlin "S.a$b" ∧
      ¬(Target.typeScript.stub "S" (namedMethod "a\"b") "").PassesName plainUnicode .typeScript "S.a\"b" ∧
      ¬(Target.javaScript.stub "S" (namedMethod "a\"b") "").PassesName plainUnicode .javaScript "S.a\"b" ∧
      ¬(Target.python.stub "S" (namedMethod "a\"b") "").PassesName plainUnicode .python "S.a\"b" ∧
      ¬(Target.swift.stub "S" (namedMethod "a\"b") "").PassesName plainUnicode .swift "S.a\"b" ∧
      ¬(Target.go.stub "S" (namedMethod "a\"b") "AB").PassesName plainUnicode .go "S.a\"b" ∧
      ¬∀ (data : UnicodeData) (target : Target) (className : String) (m : Method) (exported : String),
        m.exposure.isCallable →
          (target.stub className m exported).PassesName data target (qualifiedName className m.name) := by
  -- It is enough to find one character that does not stand for itself.
  have hnot : ∀ (target : Target) (name : String) (exported : String) (before : List Char) (c : Char)
      (after : List Char), (qualifiedName "S" name).toList = before ++ c :: after →
      ¬(c ≠ '"' ∧ (target.literalRules plainUnicode).plain c
        (after ++ '"' :: (target.stub "S" (namedMethod name) exported).behindName.toList) = true) →
      ¬(target.stub "S" (namedMethod name) exported).PassesName plainUnicode target (qualifiedName "S" name) := by
    intro target name exported before c after hname hc hpasses
    have hiff := passesName_iff plainUnicode target (target.stub "S" (namedMethod name) exported)
    rw [wireName_stub] at hiff
    exact hc (hiff.mp hpasses before c after hname)
  have hquote : ∀ (target : Target) (exported : String),
      ¬(target.stub "S" (namedMethod "a\"b") exported).PassesName plainUnicode target "S.a\"b" := by
    intro target exported
    exact hnot target "a\"b" exported ['S', '.', 'a'] '"' ['b'] rfl (by simp)
  have hdart : ¬(Target.dart.stub "S" (namedMethod "a$b") "").PassesName plainUnicode .dart "S.a$b" :=
    hnot .dart "a$b" "" ['S', '.', 'a'] '$' ['b'] rfl (by decide)
  have hkotlin : ¬(Target.kotlin.stub "S" (namedMethod "a$b") "").PassesName plainUnicode .kotlin "S.a$b" :=
    hnot .kotlin "a$b" "" ['S', '.', 'a'] '$' ['b'] rfl (by decide)
  refine ⟨hdart, hkotlin, hquote _ _, hquote _ _, hquote _ _, hquote _ _, hquote _ _, ?_⟩
  intro hall
  exact hdart (hall plainUnicode .dart "S" (namedMethod "a$b") "" rfl)

end ServiceStubs
