import ServiceStubs.Proofs.Target.WireName
import ServiceStubs.Proofs.Text.Quoted
import ServiceStubs.Proofs.Text.Split

/-!
# Literals of texts

The literal that a target writes for a text is a JSON string, in which the dollar signs are protected where they
begin interpolations. A target that does not know the escape of a JSON string, or does not allow a character that
JSON leaves alone, cannot read it.

* `Target.misspells` says for which characters this is so;
* `read_escaped` reads one character back, in every target;
* `read_textLiteral` reads a text back;
* `textLiteral_unread` are texts that cannot be read back.
-/

namespace ServiceStubs

open Text (LiteralRules letterEscapes hexPadded hexNumber? fixedHex? braced? utf16Units utf8Units)

/-! ## Escapes -/

/-- Whether a dollar sign in a literal of the target can begin an interpolation. -/
def Target.interpolates : Target → Bool
  | .dart | .kotlin => true
  | .typeScript | .javaScript | .python | .swift | .go => false

/-- The literal that a target writes for a text. -/
def Target.textLiteral (target : Target) (type : DataType) (s : String) : String :=
  match target with
  | .typeScript | .javaScript => TypeScript.literalText (.string s)
  | .python => Python.literalText (.string s)
  | .swift => Swift.literalText (.string s)
  | .dart => Dart.literalText (.string s)
  | .kotlin => Kotlin.literalText type (.string s)
  | .go => Go.literalText (.string s)

/-- The characters that a literal of the target gets wrong: those with an escape that the target does not have, and
those that it does not allow in a source file. -/
def Target.misspells : Target → Char → Bool
  | .kotlin, c => c.toNat == 12
  | .swift, c => decide (c.toNat < 32) && !(c == '\n' || c == '\r' || c == '\t')
  | .go, c => c == '\ufeff'
  | .typeScript, _ | .javaScript, _ | .python, _ | .dart, _ => false

/-- How a character stands in a literal of the target. -/
def Target.escaped (target : Target) (c : Char) : List Char :=
  if target.interpolates ∧ c = '$' then ['\\', '$'] else Text.jsonEscape c

/-- In a literal, too, a character is escaped by a letter, by its code point, or not at all. -/
theorem escaped_cases (target : Target) (c : Char) :
    (∃ letter, (c, letter) ∈ letterEscapes ∧ target.escaped c = ['\\', letter]) ∨
      (target.interpolates ∧ c = '$' ∧ target.escaped c = ['\\', '$']) ∨
      ((∀ letter, (c, letter) ∉ letterEscapes) ∧ c.toNat < 32 ∧
        target.escaped c = '\\' :: 'u' :: hexPadded 4 c.toNat) ∨
      (32 ≤ c.toNat ∧ c ≠ '"' ∧ c ≠ '\\' ∧ (target.interpolates → c ≠ '$') ∧ target.escaped c = [c]) := by
  by_cases hdollar : target.interpolates ∧ c = '$'
  · exact .inr (.inl ⟨hdollar.1, hdollar.2, if_pos hdollar⟩)
  · unfold Target.escaped
    rw [if_neg hdollar]
    rcases Text.jsonEscape_cases c with hletter | hcontrol | ⟨hcontrol, hquote, hbackslash, hescape⟩
    · exact .inl hletter
    · exact .inr (.inr (.inl hcontrol))
    · exact .inr (.inr (.inr ⟨hcontrol, hquote, hbackslash, fun hi hc => hdollar ⟨hi, hc⟩, hescape⟩))

/-! ## Reading back -/

namespace Text.LiteralRules

variable (rules : LiteralRules)

/-- An escape is read, and then what follows it. -/
theorem read_of_escape (written : List Char) {rest : List Char} {value : List Nat}
    (hplain : rules.plain '\\' (written ++ rest) = false)
    (hescape : rules.escape (written ++ rest) = some (value, written.length)) :
    rules.read ('\\' :: (written ++ rest)) =
      (rules.read rest).map fun (further, rest) => (value ++ further, rest) := by
  rw [read, if_neg (by decide), if_neg (by simp [hplain]), if_pos rfl, hescape]
  dsimp only
  rw [List.drop_left]

theorem read_of_escape_eq_none {following : List Char} (hplain : rules.plain '\\' following = false)
    (hescape : rules.escape following = none) : rules.read ('\\' :: following) = none := by
  rw [read, if_neg (by decide), if_neg (by simp [hplain]), if_pos rfl, hescape]

end Text.LiteralRules

/-- The digits of a control character begin with zeros. -/
theorem hexPadded_head {n : Nat} (h : n < 32) : (hexPadded 4 n).head? = some '0' := by
  revert n
  decide

variable (data : UnicodeData)

/-- The escapes by letters are known to the target, but for those that it misspells. -/
theorem escape_letter (target : Target) {c letter : Char} (h : (c, letter) ∈ letterEscapes) (rest : List Char) :
    (target.literalRules data).plain '\\' (letter :: rest) = false ∧
      (target.literalRules data).escape (letter :: rest) =
        if target.misspells c then none else some ((target.literalRules data).encode c.toNat, 1) := by
  rcases Text.mem_letterEscapes h with ⟨rfl, rfl⟩ | ⟨rfl, rfl⟩ | ⟨rfl, rfl⟩ | ⟨rfl, rfl⟩ | ⟨rfl, rfl⟩ | ⟨rfl, rfl⟩ | ⟨rfl, rfl⟩ <;>
    cases target <;> exact ⟨rfl, rfl⟩

theorem escape_dollar {target : Target} (h : target.interpolates) (rest : List Char) :
    (target.literalRules data).plain '\\' ('$' :: rest) = false ∧
      (target.literalRules data).escape ('$' :: rest) = some ((target.literalRules data).encode '$'.toNat, 1) := by
  cases target with
  | dart => exact ⟨rfl, rfl⟩
  | kotlin => exact ⟨rfl, rfl⟩
  | _ => cases h

/-- The escapes of control characters by their code points are known to all targets but Swift. -/
theorem escape_control (target : Target) {n : Nat} (h : n < 32) (rest : List Char) :
    (target.literalRules data).plain '\\' ('u' :: (hexPadded 4 n ++ rest)) = false ∧
      (target.literalRules data).escape ('u' :: (hexPadded 4 n ++ rest)) =
        if target = .swift then none else some ((target.literalRules data).encode n, 5) := by
  obtain ⟨hlength, hnumber⟩ := Text.hexPadded_control h
  have hhead := hexPadded_head h
  match hdigits : hexPadded 4 n, hlength with
  | [zero, a, b, d], _ =>
    rw [hdigits] at hnumber hhead
    obtain rfl : zero = '0' := Option.some.inj hhead
    have hfixed : fixedHex? 4 ('0' :: a :: b :: d :: rest) = some n := hnumber
    have hutf16 : utf16Units n = [n] := if_pos (by omega)
    have hutf8 : utf8Units n = [n] := if_pos (by omega)
    have hscalar : Text.isScalar n = true := by simp [Text.isScalar]; omega
    -- Four digits are read as one code unit by all targets that know the escape.
    have hscript : ∀ rules : LiteralRules, rules.encode n = [n] →
        rules.escape ('u' :: '0' :: a :: b :: d :: rest) =
          (fixedHex? 4 ('0' :: a :: b :: d :: rest)).map (fun n => ([n], 5)) →
        rules.escape ('u' :: '0' :: a :: b :: d :: rest) = some (rules.encode n, 5) := by
      intro rules hencode hescape
      rw [hescape, hfixed, hencode]
      rfl
    refine ⟨by cases target <;> rfl, ?_⟩
    cases target with
    | typeScript => exact hscript _ hutf16 rfl
    | javaScript => exact hscript _ hutf16 rfl
    | python => exact hscript _ rfl rfl
    | swift => rfl
    | dart => exact hscript _ hutf16 rfl
    | kotlin => exact hscript _ hutf16 rfl
    | go =>
      have hescape : goLiterals.escape ('u' :: '0' :: a :: b :: d :: rest) =
          ((fixedHex? 4 ('0' :: a :: b :: d :: rest)).filter Text.isScalar).map (fun n => (utf8Units n, 5)) := rfl
      change goLiterals.escape ('u' :: '0' :: a :: b :: d :: rest) = some (utf8Units n, 5)
      rw [hescape, hfixed, Option.filter_some, if_pos hscalar]
      rfl

theorem misspells_control (target : Target) {c : Char} (h : ∀ letter, (c, letter) ∉ letterEscapes)
    (hcontrol : c.toNat < 32) : target.misspells c = decide (target = .swift) := by
  have hne := Text.ne_of_not_escaped h
  cases target with
  | kotlin =>
    have hfeed : c.toNat ≠ 12 := by
      intro heq
      refine hne (Char.ofNat 12) 'f' (by decide) ?_
      rw [← heq, Char.ofNat_toNat]
    simp [Target.misspells, hfeed]
  | swift =>
    have hnewline : c ≠ '\n' := hne '\n' 'n' (by decide)
    have hreturn : c ≠ '\r' := hne '\r' 'r' (by decide)
    have htab : c ≠ '\t' := hne '\t' 't' (by decide)
    simp [Target.misspells, hcontrol, hnewline, hreturn, htab]
  | go =>
    have hmark : c ≠ '\ufeff' := by
      rintro rfl
      exact absurd hcontrol (by decide)
    simp [Target.misspells, hmark]
  | _ => rfl

/-- What is not escaped stands for itself, unless the target does not allow it. -/
theorem plain_of_not_escaped (target : Target) {c : Char} (hcontrol : 32 ≤ c.toNat) (hbackslash : c ≠ '\\')
    (hdollar : target.interpolates → c ≠ '$') (rest : List Char) :
    (target.literalRules data).plain c rest = !target.misspells c := by
  -- The characters that end a line are control characters, which are escaped.
  have hne : ∀ d : Char, d.toNat < 32 → c ≠ d := by
    rintro d hd rfl
    omega
  have hnewline := hne '\n' (by decide)
  have hreturn := hne '\r' (by decide)
  have hnull := hne '\x00' (by decide)
  have hbreaks : c ∉ ['\\', '\n', '\r'] := by simp [hbackslash, hnewline, hreturn]
  cases target with
  | typeScript => exact decide_eq_true hbreaks
  | javaScript => exact decide_eq_true hbreaks
  | python =>
    have hallowed : c ∉ ['\n', '\r', '\x00'] := by simp [hnewline, hreturn, hnull]
    exact (if_neg hbackslash).trans (decide_eq_true hallowed)
  | swift =>
    have hlarge : decide (c.toNat < 32) = false := decide_eq_false (by omega)
    have hspelled : Target.swift.misspells c = false := Bool.and_eq_false_imp.mpr fun h => by rw [hlarge] at h; cases h
    rw [hspelled]
    exact decide_eq_true hbreaks
  | dart =>
    have hallowed : c ∉ ['\\', '\n', '\r', '$'] := by simp [hbackslash, hnewline, hreturn, hdollar rfl]
    exact decide_eq_true hallowed
  | kotlin =>
    have hspelled : Target.kotlin.misspells c = false := beq_false_of_ne (by omega)
    have hsign : (c == '$') = false := beq_false_of_ne (hdollar rfl)
    change (decide (c ∉ ['\\', '\n', '\r']) && !(c == '$' && kotlinTemplate data rest)) = _
    rw [hspelled, decide_eq_true hbreaks, hsign, Bool.false_and]
    rfl
  | go =>
    change decide (c ∉ ['\\', '\n', '\x00', '\ufeff']) = !(c == '\ufeff')
    by_cases hmark : c = '\ufeff'
    · rw [hmark]
      decide
    · have hallowed : c ∉ ['\\', '\n', '\x00', '\ufeff'] := by simp [hbackslash, hnewline, hnull, hmark]
      rw [decide_eq_true hallowed, beq_false_of_ne hmark]
      rfl

/-- One character is read back, whatever follows it, unless the target misspells it. -/
theorem read_escaped (target : Target) (c : Char) (rest : List Char) :
    (target.literalRules data).read (target.escaped c ++ rest) =
      if target.misspells c then none
      else ((target.literalRules data).read rest).map fun (value, behind) =>
        ((target.literalRules data).encode c.toNat ++ value, behind) := by
  -- A letter, the dollar sign, a code point, or the character itself.
  rcases escaped_cases target c with ⟨letter, hletter, hescaped⟩ | ⟨hinterpolates, rfl, hescaped⟩ |
    ⟨hletters, hcontrol, hescaped⟩ | ⟨hcontrol, hquote, hbackslash, hdollar, hescaped⟩
  · obtain ⟨hplain, hescape⟩ := escape_letter data target hletter rest
    rw [hescaped]
    split at hescape
    · rw [if_pos ‹_›]
      exact Text.LiteralRules.read_of_escape_eq_none _ hplain hescape
    · rw [if_neg ‹_›]
      exact Text.LiteralRules.read_of_escape _ [letter] hplain hescape
  · obtain ⟨hplain, hescape⟩ := escape_dollar data hinterpolates rest
    have hspelled : ¬target.misspells '$' := by
      cases target <;> decide
    rw [hescaped, if_neg hspelled]
    exact Text.LiteralRules.read_of_escape _ ['$'] hplain hescape
  · obtain ⟨hplain, hescape⟩ := escape_control data target hcontrol rest
    rw [hescaped, misspells_control target hletters hcontrol]
    by_cases hswift : target = .swift
    · rw [if_pos hswift] at hescape
      rw [if_pos (decide_eq_true hswift)]
      exact Text.LiteralRules.read_of_escape_eq_none _ hplain hescape
    · rw [if_neg hswift] at hescape
      rw [if_neg (by simpa using hswift)]
      have hlength : ('u' :: hexPadded 4 c.toNat).length = 5 := by
        rw [List.length_cons, (Text.hexPadded_control hcontrol).1]
      exact Text.LiteralRules.read_of_escape _ ('u' :: hexPadded 4 c.toNat) hplain
        (by rw [hlength]; exact hescape)
  · have hplain := plain_of_not_escaped data target hcontrol hbackslash hdollar rest
    rw [hescaped, List.singleton_append, Text.LiteralRules.read, if_neg hquote, hplain]
    by_cases hmisspelt : target.misspells c
    · simp [hmisspelt, hbackslash]
    · simp [hmisspelt]

/-- A text is read back up to the closing quotation mark. -/
theorem read_flatMap_escaped (target : Target) (text behind : List Char) :
    (target.literalRules data).read (text.flatMap target.escaped ++ '"' :: behind) =
      if text.any target.misspells then none else some ((target.literalRules data).unitsOf text, behind) := by
  induction text with
  | nil =>
    rw [List.flatMap_nil, List.nil_append, Text.LiteralRules.read, if_pos rfl]
    rfl
  | cons c text ih =>
    rw [List.flatMap_cons, List.append_assoc, read_escaped, ih, List.any_cons,
      Text.LiteralRules.unitsOf_cons]
    by_cases hc : target.misspells c
    · simp [hc]
    · by_cases htext : text.any target.misspells
      · simp [hc, htext]
      · simp [hc, htext]

/-! ## Literals -/

theorem dollar_not_mem_jsonEscape {c : Char} (h : c ≠ '$') : '$' ∉ Text.jsonEscape c := by
  rcases Text.jsonEscape_cases c with ⟨letter, hletter, hescaped⟩ | ⟨-, hcontrol, hescaped⟩ | ⟨-, -, -, hescaped⟩
  · have hne : letter ≠ '$' := by
      rintro rfl
      have hnone : letterEscapes.all (fun pair => pair.2 != '$') = true := by decide
      exact absurd (List.all_eq_true.mp hnone _ hletter) (by simp)
    rw [hescaped]
    simp [Ne.symm hne]
  · rw [hescaped]
    generalize c.toNat = n at hcontrol
    revert n
    decide
  · rw [hescaped]
    simpa using Ne.symm h

/-- A literal is the escaped text between quotation marks. -/
theorem toList_textLiteral (target : Target) (type : DataType) (s : String) :
    (target.textLiteral type s).toList = '"' :: (s.toList.flatMap target.escaped ++ ['"']) := by
  have hquote : target.textLiteral type s = Text.quote s target.interpolates := by
    cases target <;> rfl
  rw [hquote]
  unfold Text.quote Text.jsonQuoted
  by_cases hinterpolates : target.interpolates
  · let protect (c : Char) : List Char := if c = '$' then ['\\', '$'] else [c]
    -- Escaping does not make dollar signs, so that only those of the text are protected.
    have hchar : ∀ c, (Text.jsonEscape c).flatMap protect = target.escaped c := by
      intro c
      unfold Target.escaped
      by_cases hc : c = '$'
      · rw [if_pos ⟨hinterpolates, hc⟩, hc]
        rfl
      · rw [if_neg fun h => hc h.2]
        have hkept : (Text.jsonEscape c).flatMap protect = (Text.jsonEscape c).flatMap List.singleton :=
          List.flatMap_congr fun d hd => if_neg (ne_of_mem_of_not_mem hd (dollar_not_mem_jsonEscape hc))
        rw [hkept]
        exact List.flatMap_singleton' _
    have hend : protect '"' = ['"'] := rfl
    have hreplaced : ∀ text : String, (Text.replaceAll "$" "\\$" text).toList = text.toList.flatMap protect := by
      intro text
      unfold Text.replaceAll
      rw [String.toList_ofList]
      exact Text.replaceFrom_singleton '$' "\\$".toList text.toList
    rw [if_pos hinterpolates, hreplaced, String.toList_ofList, List.flatMap_cons, List.flatMap_append,
      List.flatMap_assoc, List.flatMap_singleton, hend]
    simp only [hchar]
    rfl
  · rw [if_neg hinterpolates, String.toList_ofList]
    unfold Target.escaped
    simp [hinterpolates]

/-- In its literal a text stands between quotation marks, and reading on from the first one gives this text up to the
second one, whatever follows it. Where the text has a character that the target misspells, the literal cannot be
read: these are the form feed in Kotlin, the control characters but for line breaks and tabs in Swift, and the byte
order mark in Go. -/
theorem read_textLiteral (target : Target) (type : DataType) (s : String) (behind : List Char) :
    ∃ body, (target.textLiteral type s).toList = '"' :: body ∧
      (target.literalRules data).read (body ++ behind) =
        if s.toList.any target.misspells then none
        else some ((target.literalRules data).unitsOf s.toList, behind) := by
  refine ⟨s.toList.flatMap target.escaped ++ ['"'], toList_textLiteral target type s, ?_⟩
  rw [List.append_assoc, List.singleton_append, read_flatMap_escaped]

/-- Kotlin has no escape for the form feed, and Swift none for the backspace. -/
theorem textLiteral_unread :
    Target.kotlin.textLiteral .string "\x0c" = "\"\\f\"" ∧
      (kotlinLiterals plainUnicode).read "\\f\"".toList = none ∧
      Target.swift.textLiteral .string "\x08" = "\"\\b\"" ∧ swiftLiterals.read "\\b\"".toList = none :=
  ⟨by decide, Text.LiteralRules.read_of_escape_eq_none _ rfl rfl, by decide,
    Text.LiteralRules.read_of_escape_eq_none _ rfl rfl⟩

end ServiceStubs
