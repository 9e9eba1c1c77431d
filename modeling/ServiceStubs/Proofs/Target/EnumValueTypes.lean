import Mathlib.Data.Int.Notation
import Mathlib.Data.List.Basic
import ServiceStubs.Number.Literal
import ServiceStubs.Target.Go
import ServiceStubs.Target.Kotlin
import ServiceStubs.Target.Python
import ServiceStubs.Target.Swift

/-!
# Types for the values of enums

An enum of whole numbers gets integers for its values where all of them fit into 64 bits, and floating-point numbers
otherwise. The integers of Kotlin have 32 bits only, so that there are values for which neither is chosen that could
hold them.

* `Spells` says which whole number a text is, and `IsDouble` which numbers have double precision;
* `isIntegerText_iff` says that the texts of integers are told apart by 64 bits;
* `NumberTypes.holds_iff` says when the type that is chosen holds all the values;
* `enumTypes_hold` puts this together with what is written for an enum.
-/

namespace ServiceStubs

/-! ## Numbers -/

/-- A text is a whole number in decimal digits, perhaps with a sign. -/
def Spells (text : String) (n : ℤ) : Prop :=
  ∃ digits : List Char, digits ≠ [] ∧ (∀ c ∈ digits, c.isDigit) ∧
    ((text.toList = digits ∨ text.toList = '+' :: digits) ∧ n = NumericLiteral.valueOf 10 digits ∨
      text.toList = '-' :: digits ∧ n = -(NumericLiteral.valueOf 10 digits : ℤ))

/-- A whole number that has double precision: it is `mantissa * 2 ^ exponent` within the bounds of both. -/
def IsDouble (n : ℤ) : Prop :=
  ∃ (mantissa : ℕ) (exponent : ℤ), mantissa < mantissaBound ∧ leastExponent ≤ exponent ∧ exponent ≤ greatestExponent ∧
    n.natAbs * Nat.pow 2 (-exponent).toNat = mantissa * Nat.pow 2 exponent.toNat

/-- A whole number is one of the integers of so many bits, half of which are negative. -/
def FitsInto (bits : ℕ) (n : ℤ) : Prop :=
  -(Nat.pow 2 (bits - 1) : ℤ) ≤ n ∧ n < Nat.pow 2 (bits - 1)

/-- A digit counts what it says. -/
theorem digitValue?_of_isDigit {c : Char} (h : c.isDigit) :
    NumericLiteral.digitValue? 10 c = some (c.toNat - '0'.toNat) := by
  have hrange : 48 ≤ c.toNat ∧ c.toNat ≤ 57 := by
    unfold Char.isDigit at h
    rw [Bool.and_eq_true, decide_eq_true_eq, decide_eq_true_eq] at h
    exact ⟨h.1, h.2⟩
  have hsmall : c.toNat - 48 < 10 := by omega
  unfold NumericLiteral.digitValue?
  simpa [h] using hsmall

/-- Digits are read in the same way wherever they stand. -/
theorem valueOf_eq_foldl {digits : List Char} (h : ∀ c ∈ digits, c.isDigit) :
    NumericLiteral.valueOf 10 digits = digits.foldl (fun n c => 10 * n + (c.toNat - '0'.toNat)) 0 := by
  unfold NumericLiteral.valueOf
  refine List.foldl_ext _ _ _ fun n c hc => ?_
  rw [digitValue?_of_isDigit (h c hc), Option.getD_some, Nat.mul_comm]

/-- The whole numbers whose texts are taken for integers are those of 64 bits. -/
theorem isIntegerText_iff {text : String} {n : ℤ} (h : Spells text n) : isIntegerText text ↔ FitsInto 64 n := by
  obtain ⟨digits, hne, hdigits, hsign⟩ := h
  have hread : ∀ bound, (!digits.isEmpty && digits.all Char.isDigit &&
      decide (digits.foldl (fun n c => 10 * n + (c.toNat - '0'.toNat)) 0 < bound)) = true ↔
        NumericLiteral.valueOf 10 digits < bound := by
    intro bound
    have hall : digits.all Char.isDigit := List.all_eq_true.mpr hdigits
    rw [valueOf_eq_foldl hdigits]
    simp [hne, hall]
  have hfits : FitsInto 64 n ↔ -9223372036854775808 ≤ n ∧ n < 9223372036854775808 := Iff.rfl
  rw [hfits]
  unfold isIntegerText
  rcases hsign with ⟨hunsigned | hplus, rfl⟩ | ⟨hminus, rfl⟩
  · -- A digit is no sign.
    have hnosign : ∀ rest, digits ≠ '-' :: rest ∧ digits ≠ '+' :: rest := by
      intro rest
      constructor
      · rintro rfl
        exact absurd (hdigits '-' List.mem_cons_self) (by decide)
      · rintro rfl
        exact absurd (hdigits '+' List.mem_cons_self) (by decide)
    rw [hunsigned]
    split
    rename_i heq
    split at heq
    · exact absurd rfl (hnosign _).1
    · exact absurd rfl (hnosign _).2
    · cases heq
      refine (hread 9223372036854775808).trans ?_
      omega
  · rw [hplus]
    refine (hread 9223372036854775808).trans ?_
    omega
  · rw [hminus]
    refine (hread 9223372036854775809).trans ?_
    omega

/-! ## Types for numbers -/

/-- The types that a target has for numbers. -/
structure NumberTypes where
  integer : String
  /-- How many bits an integer has, unless it may have any number. -/
  bits : Option ℕ
  /-- The numbers of double precision. -/
  floating : String

/-- A type can hold a number as it is. -/
def NumberTypes.Holds (types : NumberTypes) (type : String) (n : ℤ) : Prop :=
  (type = types.integer ∧ ∀ bits ∈ types.bits, FitsInto bits n) ∨ (type = types.floating ∧ IsDouble n)

def Python.numberTypes : NumberTypes := ⟨"IntEnum", none, "float, Enum"⟩

def Go.numberTypes : NumberTypes := ⟨"int64", some 64, "float64"⟩

def Swift.numberTypes : NumberTypes := ⟨"Int", some 64, "Double"⟩

def Kotlin.numberTypes : NumberTypes := ⟨"Int", some 32, "Double"⟩

/-- The type that is chosen for the values of an enum. -/
def NumberTypes.chosen (types : NumberTypes) (cases : List EnumCase) : String :=
  if cases.all EnumCase.isInteger then types.integer else types.floating

/-- The values of an enum are whole numbers. -/
def AreValues (cases : List EnumCase) (values : List ℤ) : Prop :=
  List.Forall₂ (fun c n => ∃ text, c.value = .number text ∧ Spells text n) cases values

theorem all_isInteger_iff {cases : List EnumCase} {values : List ℤ} (h : AreValues cases values) :
    cases.all EnumCase.isInteger ↔ ∀ n ∈ values, FitsInto 64 n := by
  unfold AreValues at h
  induction h with
  | nil => simp
  | cons hvalue _ ih =>
    obtain ⟨text, htext, hspells⟩ := hvalue
    rw [List.all_cons, Bool.and_eq_true, ih, List.forall_mem_cons, EnumCase.isInteger, htext]
    exact and_congr_left' (isIntegerText_iff hspells)

/-- The type that is chosen holds all values if its integers do, or if there is one that needs more than 64 bits. -/
theorem NumberTypes.holds_iff {types : NumberTypes} (hne : types.integer ≠ types.floating) {cases : List EnumCase}
    {values : List ℤ} (h : AreValues cases values) (hdouble : ∀ n ∈ values, IsDouble n) :
    (∀ n ∈ values, types.Holds (types.chosen cases) n) ↔
      (∀ n ∈ values, ∀ bits ∈ types.bits, FitsInto bits n) ∨ ∃ n ∈ values, ¬FitsInto 64 n := by
  unfold chosen Holds
  split
  · rename_i hall
    have hfit := (all_isInteger_iff h).mp hall
    have hno : ¬∃ n ∈ values, ¬FitsInto 64 n := fun ⟨n, hn, hlarge⟩ => hlarge (hfit n hn)
    rw [or_iff_left hno]
    simp [hne]
  · rename_i hnot
    rw [all_isInteger_iff h] at hnot
    push Not at hnot
    exact iff_of_true (fun n hn => .inr ⟨rfl, hdouble n hn⟩) (.inr hnot)

/-! ## Code for enums -/

/-- The code for a declaration begins so, behind its description. -/
def CodeBegins (rendered : Except Error String) (docs : Option String) (style : DocStyle) (start : String) : Prop :=
  ∃ code, rendered = .ok (documented docs style code) ∧ Text.startsWith code start

theorem casesKind_number {cases : List EnumCase} {values : List ℤ} (h : AreValues cases values) (name : String) :
    casesKind name none cases = .ok .number := by
  -- Of the cases before, if there are any, the kind is that of numbers.
  have hseen : ∀ seen, seen = none ∨ seen = some .number → casesKind name seen cases = .ok .number := by
    unfold AreValues at h
    induction h with
    | nil => rintro seen (rfl | rfl) <;> rfl
    | cons hvalue _ ih =>
      obtain ⟨text, htext, -⟩ := hvalue
      rintro seen (rfl | rfl)
      · unfold casesKind
        rw [htext]
        exact ih _ (.inr rfl)
      · unfold casesKind
        rw [htext]
        exact ih _ (.inr rfl)
  exact hseen none (.inl rfl)

section

variable {d : Declaration} {cases : List EnumCase} {values : List ℤ}

/-- An enum of numbers is written like one. -/
theorem codeBegins_of_areValues (h : AreValues cases values) {name start : String} {code : EnumValueKind → String}
    (hstart : Text.startsWith (code .number) start) (docs : Option String) (style : DocStyle) :
    CodeBegins (((casesKind name none cases).map code).map (documented docs style)) docs style start := by
  rw [casesKind_number h]
  exact ⟨code .number, rfl, hstart⟩

theorem Python.codeBegins_enum (hbody : d.body = .enumeration cases) (h : AreValues cases values) :
    CodeBegins (declarationText d) d.docs .hash
      ("class " ++ d.name ++ "(" ++ numberTypes.chosen cases ++ "):") := by
  unfold declarationText declarationBody
  rw [hbody]
  refine codeBegins_of_areValues h ?_ _ _
  unfold enumText Text.startsWith
  rw [List.isPrefixOf_iff_prefix]
  simp [enumBase, numberTypes, NumberTypes.chosen]

theorem Go.codeBegins_enum (hbody : d.body = .enumeration cases) (h : AreValues cases values) :
    CodeBegins (declarationText d) d.docs .doubleSlash ("type " ++ d.name ++ " " ++ numberTypes.chosen cases) := by
  unfold declarationText declarationBody
  rw [hbody]
  refine codeBegins_of_areValues h ?_ _ _
  unfold enumText Text.startsWith
  rw [List.isPrefixOf_iff_prefix]
  simp [enumValueType, numberTypes, NumberTypes.chosen]

/-- What the code of Swift begins with: an enum has to have a case, and one without is a name for its numbers. -/
def Swift.enumStart (name type : String) (cases : List EnumCase) : String :=
  if cases.isEmpty then "public typealias " ++ name ++ " = " ++ type
  else "public enum " ++ name ++ ": " ++ type ++ ", Codable"

theorem Swift.codeBegins_enum (hbody : d.body = .enumeration cases) (h : AreValues cases values) :
    CodeBegins (declarationText d) d.docs .tripleSlash (enumStart d.name (numberTypes.chosen cases) cases) := by
  unfold declarationText declarationBody
  rw [hbody]
  refine codeBegins_of_areValues h ?_ _ _
  unfold enumText enumStart Text.startsWith
  rw [List.isPrefixOf_iff_prefix]
  split
  · rename_i hempty
    obtain rfl := List.isEmpty_iff.mp hempty
    simp [numberTypes, NumberTypes.chosen]
  · simp [rawType, numberTypes, NumberTypes.chosen]

theorem Kotlin.codeBegins_enum (hbody : d.body = .enumeration cases) (h : AreValues cases values) :
    CodeBegins (declarationText d) d.docs .block
      ("enum class " ++ d.name ++ "(override val value: " ++ numberTypes.chosen cases ++ ")") := by
  have htype : typeText (enumValueType .number cases) = numberTypes.chosen cases := by
    unfold enumValueType NumberTypes.chosen
    dsimp only
    split
    · rw [typeText]
      rfl
    · rw [typeText]
      rfl
  unfold declarationText declarationBody
  rw [hbody]
  refine codeBegins_of_areValues h ?_ _ _
  unfold enumText Text.startsWith
  rw [List.isPrefixOf_iff_prefix, ← htype]
  simp

/-- Every enum of whole numbers of double precision gets a type in Python, Go and Swift that holds its values, and in
Kotlin if they all fit into 32 bits or one of them does not fit into 64. -/
theorem enumTypes_hold (hbody : d.body = .enumeration cases) (hvalues : AreValues cases values)
    (hdouble : ∀ n ∈ values, IsDouble n) :
    (∃ type, CodeBegins (Python.declarationText d) d.docs .hash ("class " ++ d.name ++ "(" ++ type ++ "):") ∧
        ∀ n ∈ values, Python.numberTypes.Holds type n) ∧
      (∃ type, CodeBegins (Go.declarationText d) d.docs .doubleSlash ("type " ++ d.name ++ " " ++ type) ∧
        ∀ n ∈ values, Go.numberTypes.Holds type n) ∧
      (∃ type, CodeBegins (Swift.declarationText d) d.docs .tripleSlash (Swift.enumStart d.name type cases) ∧
        ∀ n ∈ values, Swift.numberTypes.Holds type n) ∧
      ∃ type, CodeBegins (Kotlin.declarationText d) d.docs .block
          ("enum class " ++ d.name ++ "(override val value: " ++ type ++ ")") ∧
        ((∀ n ∈ values, Kotlin.numberTypes.Holds type n) ↔
          (∀ n ∈ values, FitsInto 32 n) ∨ ∃ n ∈ values, ¬FitsInto 64 n) := by
  -- Whether one value is too large decides between whole and floating numbers.
  have hall : (∀ n ∈ values, FitsInto 64 n) ∨ ∃ n ∈ values, ¬FitsInto 64 n := by
    by_cases h : ∀ n ∈ values, FitsInto 64 n
    · exact .inl h
    · push Not at h
      exact .inr h
  refine ⟨⟨_, Python.codeBegins_enum hbody hvalues, ?_⟩, ⟨_, Go.codeBegins_enum hbody hvalues, ?_⟩,
    ⟨_, Swift.codeBegins_enum hbody hvalues, ?_⟩, ⟨_, Kotlin.codeBegins_enum hbody hvalues, ?_⟩⟩
  · rw [NumberTypes.holds_iff (by decide) hvalues hdouble]
    simp [Python.numberTypes]
  · rw [NumberTypes.holds_iff (by decide) hvalues hdouble]
    simpa [Go.numberTypes] using hall
  · rw [NumberTypes.holds_iff (by decide) hvalues hdouble]
    simpa [Swift.numberTypes] using hall
  · rw [NumberTypes.holds_iff (by decide) hvalues hdouble]
    simp [Kotlin.numberTypes]

end

/-- An enum with the least integer of 64 bits, and one that is larger than all of them. -/
def wideBounds : Declaration :=
  ⟨"Bounds", "s",
    .enumeration [⟨"low", .number "-9223372036854775808"⟩, ⟨"high", .number "9223372036854775808"⟩], none⟩

theorem enumTypes_hold_wideBounds :
    ∃ type, CodeBegins (Kotlin.declarationText wideBounds) none .block
        ("enum class Bounds(override val value: " ++ type ++ ")") ∧
      ∀ n ∈ [-9223372036854775808, 9223372036854775808], Kotlin.numberTypes.Holds type n := by
  have hdigits : ∀ c ∈ "9223372036854775808".toList, c.isDigit := List.all_eq_true.mp (by decide)
  have hvalues : AreValues [⟨"low", .number "-9223372036854775808"⟩, ⟨"high", .number "9223372036854775808"⟩]
      [-9223372036854775808, 9223372036854775808] := by
    refine .cons ⟨_, rfl, _, by decide, hdigits, .inr ⟨rfl, rfl⟩⟩ (.cons ?_ .nil)
    exact ⟨_, rfl, _, by decide, hdigits, .inl ⟨.inl rfl, rfl⟩⟩
  have hdouble : ∀ n ∈ [(-9223372036854775808 : ℤ), 9223372036854775808], IsDouble n := by
    have hpower : IsDouble (-9223372036854775808) ∧ IsDouble 9223372036854775808 :=
      ⟨⟨1, 63, by decide, by decide, by decide, by decide⟩, ⟨1, 63, by decide, by decide, by decide, by decide⟩⟩
    simpa using hpower
  obtain ⟨-, -, -, type, hbegins, hholds⟩ := enumTypes_hold (d := wideBounds) rfl hvalues hdouble
  refine ⟨type, hbegins, hholds.mpr (.inr ⟨9223372036854775808, by simp, ?_⟩)⟩
  unfold FitsInto
  decide

/-- An enum with a number that needs more than 32 bits. -/
def largeNumber : Declaration :=
  ⟨"E", "s", .enumeration [⟨"a", .number "3000000000"⟩], none⟩

/-- Kotlin gets integers for it, which cannot hold the number. -/
theorem not_holds_largeNumber :
    AreValues [⟨"a", .number "3000000000"⟩] [3000000000] ∧ IsDouble 3000000000 ∧
      Kotlin.declarationText largeNumber =
        .ok "enum class E(override val value: Int) : WireEnum \x7b\n    A(3000000000),\n    ;\n\x7d" ∧
      ¬Kotlin.numberTypes.Holds "Int" 3000000000 := by
  have hdigits : ∀ c ∈ "3000000000".toList, c.isDigit := List.all_eq_true.mp (by decide)
  refine ⟨.cons ⟨_, rfl, _, by decide, hdigits, .inl ⟨.inl rfl, rfl⟩⟩ .nil,
    ⟨3000000000, 0, by decide, by decide, by decide, by decide⟩, ?_, ?_⟩
  · have htype : Kotlin.typeText (Kotlin.enumValueType .number [⟨"a", .number "3000000000"⟩]) = "Int" := by
      have hinteger : Kotlin.enumValueType .number [⟨"a", .number "3000000000"⟩] = .integer := rfl
      rw [hinteger, Kotlin.typeText]
    have hcode : Kotlin.declarationText largeNumber =
        .ok (documented none .block (Kotlin.enumText "E" .number [⟨"a", .number "3000000000"⟩])) := rfl
    rw [hcode]
    unfold Kotlin.enumText
    dsimp only
    rw [htype]
    rfl
  · unfold NumberTypes.Holds Kotlin.numberTypes FitsInto
    simp

end ServiceStubs
