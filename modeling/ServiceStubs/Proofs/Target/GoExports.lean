import ServiceStubs.Proofs.Target.ScopeNames
import ServiceStubs.Proofs.Target.ScopeWords
import ServiceStubs.Proofs.Target.WireKey
import ServiceStubs.Proofs.Text.WordCase
import ServiceStubs.Proofs.Text.Words
import ServiceStubs.Source.Identifier.Tables

/-!
# Exported names in Go

A name in Go is a row of letters, decimal digits and underscores, and other packages see it if it begins with an
upper-case letter. Fields of structs and methods get names in camel case, with an `X` in front where these do not begin
with a letter. Camel case gives a name its capital, unless its first letter has none: there are scripts without case,
and numbers that are written with letters. And the case changes can lead to characters that names do not have.

* `Go.unicode` are the classes of characters in question;
* `Go.beginsUpper_exportedName_iff` and `Go.isName_exportedName_iff` say when the name for a declared one is exported,
  and when it is a name;
* `Go.exportedNames_exported_iff` says so of all names of a scope, which are kept apart;
* `Go.exportedNames_not_exported` are names of which neither holds.
-/

namespace ServiceStubs.Go

open Text (CodeRun inRuns isAlphabetic isAlphanumeric toUpper toLower)

/-! ## Classes of characters -/

/-- Numbers that are written with letters: the category Nl. -/
def letterNumberRuns : List CodeRun := [
  ⟨5870, 5872, 1⟩, ⟨8544, 8578, 1⟩, ⟨8581, 8584, 1⟩, ⟨12295, 12295, 1⟩, ⟨12321, 12329, 1⟩, ⟨12344, 12346, 1⟩,
  ⟨42726, 42735, 1⟩, ⟨65856, 65908, 1⟩, ⟨66369, 66369, 1⟩, ⟨66378, 66378, 1⟩, ⟨66513, 66517, 1⟩,
  ⟨74752, 74862, 1⟩]

/-- Marks and symbols that can begin identifiers: the property Other_ID_Start. -/
def otherStartRuns : List CodeRun := [
  ⟨6277, 6278, 1⟩, ⟨8472, 8472, 1⟩, ⟨8494, 8494, 1⟩, ⟨12443, 12444, 1⟩]

/-- Numbers that can go on identifiers and are no decimal digits. -/
def otherPartRuns : List CodeRun := [
  ⟨4969, 4977, 1⟩, ⟨6618, 6618, 1⟩]

/-- Letters: the categories Lu, Ll, Lt, Lm and Lo. Identifiers begin with them, but for one letter that looks like an
operator. -/
def isLetter (c : Char) : Bool :=
  if c.toNat < 128 then c.isAlpha
  else c.toNat == 11823 ||
    (inRuns Source.identifierStartRuns c && !inRuns letterNumberRuns c && !inRuns otherStartRuns c)

/-- Decimal digits of any script: the category Nd. -/
def isDecimalDigit (c : Char) : Bool :=
  if c.toNat < 128 then c.isDigit
  else Text.isNumeric c && inRuns Source.identifierPartRuns c && !inRuns otherPartRuns c

/-- The classes of characters that the language knows. The upper-case letters are those of the category Lu. -/
def unicode : Characters where
  isLetter := isLetter
  isDigit := isDecimalDigit
  isUpper c := isLetter c && Text.isUppercase c

/-! ## Names -/

/-- A character that names are made of. -/
def IsNameChar (c : Char) : Prop :=
  unicode.isLetter c ∨ unicode.isDigit c ∨ c = '_'

instance (c : Char) : Decidable (IsNameChar c) :=
  inferInstanceAs (Decidable (_ ∨ _ ∨ _))

/-- A row of letters, decimal digits and underscores. -/
def IsName (ident : String) : Prop :=
  ∀ c ∈ ident.toList, IsNameChar c

instance (ident : String) : Decidable (IsName ident) :=
  List.decidableBAll _ _

/-- The first character is an upper-case letter, so that other packages see the name. -/
def BeginsUpper (ident : String) : Prop :=
  ∃ c ∈ ident.toList.head?, unicode.isUpper c

/-- The first letter or number of a declared name, in upper case, begins with an upper-case letter, or with no letter at
all. -/
def HasCapital (name : String) : Prop :=
  ∀ c ∈ name.toList.find? isAlphanumeric, ∀ d ∈ (toUpper c).head?, isAlphabetic d → unicode.isUpper d

/-- What begins a word in a declared name has an upper-case form of characters that names are made of, and all other
letters and numbers have such a lower-case form. -/
def HasCamelForm (name : String) : Prop :=
  ∀ w ∈ Text.words name.toList, (∀ c ∈ w.head?, ∀ d ∈ toUpper c, IsNameChar d) ∧
    ∀ c ∈ w.tail, ∀ d ∈ toLower c, IsNameChar d

/-- The exported form of a name is its form in camel case, with an `X` in front if it does not begin with a letter. -/
theorem toList_exportedName (name : String) :
    (exportedName name).toList =
      if (Text.upperCamel name).toList.head?.any isAlphabetic then (Text.upperCamel name).toList
      else 'X' :: (Text.upperCamel name).toList := by
  -- With nothing reserved, the identifier is the name in identifier characters, which make no other words.
  have hsafe : safeIdent [] name = sanitized name := if_neg List.not_mem_nil
  unfold exportedName
  rw [hsafe, Text.upperCamel_sanitized]
  dsimp only
  split
  · rename_i c rest hname
    rw [hname]
    by_cases hc : isAlphabetic c
    · simp [hc, hname]
    · simp [hc, hname]
  · rename_i hname
    simp [hname]

section

variable {ident : String}

theorem beginsUpper_underscored_iff (h : ident ≠ "") (n : Nat) :
    BeginsUpper (underscored ident n) ↔ BeginsUpper ident := by
  obtain ⟨c, rest, hident⟩ := List.exists_cons_of_ne_nil (mt String.toList_eq_nil_iff.mp h)
  unfold BeginsUpper
  rw [toList_underscored, hident, List.cons_append, List.head?_cons, List.head?_cons]

theorem isName_underscored_iff (n : Nat) : IsName (underscored ident n) ↔ IsName ident := by
  unfold IsName
  rw [toList_underscored, List.forall_mem_append, and_iff_left]
  intro c hc
  rw [(List.mem_replicate.mp hc).2]
  exact .inr (.inr rfl)

end

theorem exportedName_ne_empty (name : String) : exportedName name ≠ "" := by
  rw [Ne, ← String.toList_eq_nil_iff, toList_exportedName]
  split
  · rename_i h
    intro hnil
    rw [hnil] at h
    cases h
  · simp

/-- The exported form of a name begins with an upper-case letter if the first letter of the name has one. -/
theorem beginsUpper_exportedName_iff (name : String) : BeginsUpper (exportedName name) ↔ HasCapital name := by
  have hx : unicode.isUpper 'X' := by decide +kernel
  have hhead : HasCapital name ↔
      ∀ d ∈ (Text.upperCamel name).toList.head?, isAlphabetic d → unicode.isUpper d := by
    unfold HasCapital
    rw [Text.head?_upperCamel]
    simp only [Option.mem_def, Option.bind_eq_some_iff]
    exact ⟨fun h d ⟨c, hc, hd⟩ => h c hc d hd, fun h c hc d hd => h d ⟨c, hc, hd⟩⟩
  rw [hhead]
  unfold BeginsUpper
  rw [toList_exportedName]
  rcases (Text.upperCamel name).toList with _ | ⟨d, rest⟩
  · simp [hx]
  · by_cases hd : isAlphabetic d
    · simp [hd]
    · simp [hd, hx]

/-- The exported form of a name is a name if its camel form is. -/
theorem isName_exportedName_iff (name : String) : IsName (exportedName name) ↔ HasCamelForm name := by
  have hx : IsNameChar 'X' := by decide +kernel
  have hsigma : IsNameChar 'σ' := by decide +kernel
  have hfinal : IsNameChar 'ς' := by decide +kernel
  unfold IsName HasCamelForm
  rw [toList_exportedName, ← Text.forall_mem_upperCamel_iff hsigma hfinal]
  split
  · rfl
  · rw [List.forall_mem_cons, and_iff_right hx]

/-! ## Scopes -/

/-- Each name of a scope gets its exported form, with underscores behind it. -/
theorem exportedNames_forall₂ (names : List String) :
    List.Forall₂ (fun name ident => ∃ n, ident = underscored (exportedName name) n) names (exportedNames names) := by
  have hafter : ∀ taken, List.Forall₂ (fun name ident => ∃ n, ident = underscored (exportedName name) n) names
      (exportedAfter taken names) := by
    induction names with
    | nil => exact fun _ => .nil
    | cons name rest ih =>
      intro taken
      obtain ⟨n, hform, -, -⟩ := freshIdent_spec taken (exportedName name)
      exact .cons ⟨n, hform⟩ (ih _)
  exact hafter []

/-- Every list of names. Adding underscores comes to an end, whatever is taken. Each name gets an identifier, and no two
get the same one. It begins with an upper-case letter if and only if the first letter of the name has a capital, and it
is a name if and only if the case changes of the name lead to characters of names. -/
theorem exportedNames_exported_iff (names : List String) :
    (∀ taken ident, EndsAt taken ident (freshIdent taken ident)) ∧
      (exportedNames names).Nodup ∧
      List.Forall₂ (fun name ident => (∃ n, ident = underscored (exportedName name) n) ∧
          (BeginsUpper ident ↔ HasCapital name) ∧ (IsName ident ↔ HasCamelForm name))
        names (exportedNames names) := by
  refine ⟨endsAt_freshIdent, nodup_exportedNames names, (exportedNames_forall₂ names).imp ?_⟩
  rintro name ident ⟨n, rfl⟩
  refine ⟨⟨n, rfl⟩, ?_, ?_⟩
  · rw [beginsUpper_underscored_iff (exportedName_ne_empty name), beginsUpper_exportedName_iff]
  · rw [isName_underscored_iff, isName_exportedName_iff]

/-- A letter of a script without case has no capital, and the capital of `ǰ` is written with a mark, which is no letter.
Both come through as they are. -/
theorem exportedNames_not_exported :
    exportedNames ["名"] = ["名"] ∧ ¬BeginsUpper "名" ∧
      exportedNames ["ǰ"] = ["J\u030c"] ∧ ¬IsName "J\u030c" := by
  have hfirst : exportedName "名" = "名" := by decide +kernel
  have hsecond : exportedName "ǰ" = "J\u030c" := by decide +kernel
  refine ⟨by simp [exportedNames, exportedAfter, hfirst, freshIdent, extendUntilFree], ?_,
    by simp [exportedNames, exportedAfter, hsecond, freshIdent, extendUntilFree], by decide +kernel⟩
  rintro ⟨c, hc, hupper⟩
  cases hc
  exact absurd hupper (by decide +kernel)

end ServiceStubs.Go
