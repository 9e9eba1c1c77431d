import Mathlib.Logic.Function.Basic
import ServiceStubs.Text.Quoted
import ServiceStubs.Proofs.Text.StringLiteral

/-!
# Reading JSON strings back

A character is escaped by a letter, by its code point, or not at all (`jsonEscape_cases`). What stands behind a
backslash tells which character was escaped, so that a JSON string can be read back
(`unescaped_flatMap_jsonEscape`) and different texts have different JSON strings (`jsonQuoted_injective`).
-/

namespace ServiceStubs.Text

/-- The characters that are escaped by a letter, and the letters. -/
def letterEscapes : List (Char × Char) :=
  [('"', '"'), ('\\', '\\'), ('\n', 'n'), ('\r', 'r'), ('\t', 't'), (Char.ofNat 8, 'b'), (Char.ofNat 12, 'f')]

theorem mem_letterEscapes {c letter : Char} (h : (c, letter) ∈ letterEscapes) :
    c = '"' ∧ letter = '"' ∨ c = '\\' ∧ letter = '\\' ∨ c = '\n' ∧ letter = 'n' ∨ c = '\r' ∧ letter = 'r' ∨
      c = '\t' ∧ letter = 't' ∨ c = Char.ofNat 8 ∧ letter = 'b' ∨ c = Char.ofNat 12 ∧ letter = 'f' := by
  simpa only [letterEscapes, List.mem_cons, List.not_mem_nil, Prod.mk.injEq, or_false] using h

theorem ne_of_not_escaped {c : Char} (h : ∀ letter, (c, letter) ∉ letterEscapes) (d letter : Char)
    (hmem : (d, letter) ∈ letterEscapes) : c ≠ d := by
  rintro rfl
  exact h letter hmem

/-- A character is escaped by a letter, by its code point, or not at all. -/
theorem jsonEscape_cases (c : Char) :
    (∃ letter, (c, letter) ∈ letterEscapes ∧ jsonEscape c = ['\\', letter]) ∨
      ((∀ letter, (c, letter) ∉ letterEscapes) ∧ c.toNat < 32 ∧
        jsonEscape c = '\\' :: 'u' :: hexPadded 4 c.toNat) ∨
      (32 ≤ c.toNat ∧ c ≠ '"' ∧ c ≠ '\\' ∧ jsonEscape c = [c]) := by
  by_cases hletter : ∃ letter, (c, letter) ∈ letterEscapes
  · obtain ⟨letter, hmem⟩ := hletter
    refine .inl ⟨letter, hmem, ?_⟩
    rcases mem_letterEscapes hmem with ⟨rfl, rfl⟩ | ⟨rfl, rfl⟩ | ⟨rfl, rfl⟩ | ⟨rfl, rfl⟩ | ⟨rfl, rfl⟩ | ⟨rfl, rfl⟩ |
      ⟨rfl, rfl⟩ <;> rfl
  · rw [not_exists] at hletter
    have hne := ne_of_not_escaped hletter
    have hcode : ∀ n letter, (Char.ofNat n, letter) ∈ letterEscapes → c.toNat ≠ n := by
      rintro n letter hmem rfl
      exact hne _ letter hmem (Char.ofNat_toNat c).symm
    have hquote := hne '"' '"' (by decide)
    have hbackslash := hne '\\' '\\' (by decide)
    -- The tests for the escaped characters fail one after the other.
    have hrest : jsonEscape c = if c.toNat < 32 then ['\\', 'u'] ++ hexPadded 4 c.toNat else [c] := by
      unfold jsonEscape
      rw [if_neg hquote, if_neg hbackslash, if_neg (hne '\n' 'n' (by decide)), if_neg (hne '\r' 'r' (by decide)),
        if_neg (hne '\t' 't' (by decide)), if_neg (hcode 8 'b' (by decide)), if_neg (hcode 12 'f' (by decide))]
    by_cases hcontrol : c.toNat < 32
    · exact .inr (.inl ⟨hletter, hcontrol, hrest.trans (if_pos hcontrol)⟩)
    · exact .inr (.inr ⟨Nat.le_of_not_lt hcontrol, hquote, hbackslash, hrest.trans (if_neg hcontrol)⟩)

/-- The character that an escape of one letter stands for. -/
def unescapedLetter (letter : Char) : Char :=
  if letter = 'n' then '\n'
  else if letter = 'r' then '\r'
  else if letter = 't' then '\t'
  else if letter = 'b' then Char.ofNat 8
  else if letter = 'f' then Char.ofNat 12
  else letter

/-- The characters that the inside of a JSON string stands for. -/
def unescaped : List Char → List Char
  | [] => []
  | '\\' :: 'u' :: a :: b :: c :: d :: rest =>
    Char.ofNat ((hexNumber? [a, b, c, d]).getD 0) :: unescaped rest
  | '\\' :: letter :: rest => unescapedLetter letter :: unescaped rest
  | c :: rest => c :: unescaped rest

theorem hexPadded_control {n : Nat} (h : n < 32) :
    (hexPadded 4 n).length = 4 ∧ hexNumber? (hexPadded 4 n) = some n := by
  revert n
  decide

/-- An escape is read back as the character, whatever follows. -/
theorem unescaped_jsonEscape_append (c : Char) (rest : List Char) :
    unescaped (jsonEscape c ++ rest) = c :: unescaped rest := by
  rcases jsonEscape_cases c with ⟨letter, hletter, hescaped⟩ | ⟨-, hcontrol, hescaped⟩ | ⟨-, -, hbackslash, hescaped⟩
  · rw [hescaped]
    rcases mem_letterEscapes hletter with ⟨rfl, rfl⟩ | ⟨rfl, rfl⟩ | ⟨rfl, rfl⟩ | ⟨rfl, rfl⟩ | ⟨rfl, rfl⟩ | ⟨rfl, rfl⟩ |
      ⟨rfl, rfl⟩ <;> rfl
  · obtain ⟨hlength, hnumber⟩ := hexPadded_control hcontrol
    rw [hescaped]
    match hdigits : hexPadded 4 c.toNat, hlength with
    | [a, b, d, e], _ =>
      rw [hdigits] at hnumber
      simp [unescaped, hnumber]
  · rw [hescaped]
    simp [unescaped, hbackslash]

theorem unescaped_flatMap_jsonEscape (cs : List Char) : unescaped (cs.flatMap jsonEscape) = cs := by
  induction cs with
  | nil => rfl
  | cons c rest ih => rw [List.flatMap_cons, unescaped_jsonEscape_append, ih]

theorem jsonQuoted_injective : Function.Injective jsonQuoted := by
  intro a b h
  have hinside : a.toList.flatMap jsonEscape = b.toList.flatMap jsonEscape := by
    have hlist := congrArg String.toList h
    simpa [jsonQuoted] using hlist
  have hlist := congrArg unescaped hinside
  rw [unescaped_flatMap_jsonEscape, unescaped_flatMap_jsonEscape] at hlist
  exact String.toList_injective hlist

/-! ## The end of a string -/

/-- The inside of a JSON string, up to the closing quotation mark, and what stands behind the mark. -/
def insideQuotes : List Char → List Char × List Char
  | '"' :: rest => ([], rest)
  | '\\' :: c :: rest =>
    let (inside, after) := insideQuotes rest
    ('\\' :: c :: inside, after)
  | c :: rest =>
    let (inside, after) := insideQuotes rest
    (c :: inside, after)
  | [] => ([], [])

theorem insideQuotes_append {cs : List Char} (h : ∀ c ∈ cs, c ≠ '"' ∧ c ≠ '\\') (rest : List Char) :
    insideQuotes (cs ++ rest) = (cs ++ (insideQuotes rest).1, (insideQuotes rest).2) := by
  induction cs with
  | nil => rfl
  | cons c cs ih =>
    rw [List.forall_mem_cons] at h
    rw [List.cons_append, insideQuotes, ih h.2]
    · rfl
    · exact h.1.1
    · rintro d rest' rfl heq
      exact h.1.2 rfl

theorem hexPadded_control_unmarked {n : Nat} (h : n < 32) : ∀ c ∈ hexPadded 4 n, c ≠ '"' ∧ c ≠ '\\' := by
  have hall : ∀ n < 32, (hexPadded 4 n).all fun c => c ≠ '"' ∧ c ≠ '\\' := by
    decide
  simpa only [List.all_eq_true, decide_eq_true_eq] using hall n h

/-- An escape is inside, whatever follows. -/
theorem insideQuotes_jsonEscape_append (c : Char) (rest : List Char) :
    insideQuotes (jsonEscape c ++ rest) = (jsonEscape c ++ (insideQuotes rest).1, (insideQuotes rest).2) := by
  rcases jsonEscape_cases c with ⟨letter, hletter, hescaped⟩ | ⟨-, hcontrol, hescaped⟩ |
    ⟨-, hquote, hbackslash, hescaped⟩
  · rw [hescaped]
    rfl
  · rw [hescaped, List.cons_append, List.cons_append, insideQuotes,
      insideQuotes_append (hexPadded_control_unmarked hcontrol)]
    rfl
  · rw [hescaped, insideQuotes_append (List.forall_mem_singleton.mpr ⟨hquote, hbackslash⟩)]

theorem insideQuotes_flatMap_jsonEscape (cs rest : List Char) :
    insideQuotes (cs.flatMap jsonEscape ++ '"' :: rest) = (cs.flatMap jsonEscape, rest) := by
  induction cs with
  | nil => rfl
  | cons c cs ih =>
    rw [List.flatMap_cons, List.append_assoc, insideQuotes_jsonEscape_append, ih]

end ServiceStubs.Text
