import Mathlib.Data.List.Basic

/-!
# String literals

How a language reads what stands between double quotation marks. A character stands for itself, or begins an
escape, or breaks the literal: it ends the line, or begins code whose value the literal takes in. The value of
a literal are the code units of its language.

* `LiteralRules` are the rules of a language, with what makes them rules of a literal: no escape stands for more
  code units than it is written with;
* `LiteralRules.read` reads a literal, from behind its opening quotation mark;
* `LiteralRules.read_eq_some_iff` says when a text between quotation marks denotes itself.
-/

namespace ServiceStubs.Text

/-! ## Code units -/

/-- The code units of a code point in UTF-16. -/
def utf16Units (n : Nat) : List Nat :=
  if n < 0x10000 then [n] else [0xd800 + (n - 0x10000) / 0x400, 0xdc00 + (n - 0x10000) % 0x400]

/-- The bytes of a code point in UTF-8. -/
def utf8Units (n : Nat) : List Nat :=
  if n < 0x80 then [n]
  else if n < 0x800 then [0xc0 + n / 0x40, 0x80 + n % 0x40]
  else if n < 0x10000 then [0xe0 + n / 0x1000, 0x80 + n / 0x40 % 0x40, 0x80 + n % 0x40]
  else [0xf0 + n / 0x40000, 0x80 + n / 0x1000 % 0x40, 0x80 + n / 0x40 % 0x40, 0x80 + n % 0x40]

theorem length_utf16Units (n : Nat) : 0 < (utf16Units n).length ∧ (utf16Units n).length ≤ 4 := by
  unfold utf16Units
  split <;> simp

theorem length_utf8Units (n : Nat) : 0 < (utf8Units n).length ∧ (utf8Units n).length ≤ 4 := by
  unfold utf8Units
  split_ifs <;> simp

/-- Code points but for the halves of surrogate pairs. -/
def isScalar (n : Nat) : Bool :=
  decide (n < 0xd800) || (decide (0xdfff < n) && decide (n ≤ 0x10ffff))

/-! ## Numbers in escapes -/

def hexDigit? (c : Char) : Option Nat :=
  if c.isDigit then some (c.toNat - '0'.toNat)
  else if 'a' ≤ c ∧ c ≤ 'f' then some (c.toNat - 'a'.toNat + 10)
  else if 'A' ≤ c ∧ c ≤ 'F' then some (c.toNat - 'A'.toNat + 10)
  else none

/-- The number that hexadecimal digits write. -/
def hexNumber? (digits : List Char) : Option Nat :=
  digits.foldlM (fun n c => (hexDigit? c).map (16 * n + ·)) 0

/-- The number in the first `width` characters, which all have to be hexadecimal digits. -/
def fixedHex? (width : Nat) (text : List Char) : Option Nat :=
  if text.length < width then none else hexNumber? (text.take width)

/-- What stands between the braces that the text begins with. -/
def braced? : List Char → Option (List Char)
  | '\x7b' :: rest =>
    let inner := rest.takeWhile (· ≠ '\x7d')
    if inner.length < rest.length then some inner else none
  | _ => none

/-! ## Rules -/

/-- The rules for literals between double quotation marks. -/
structure LiteralRules where
  /-- The code units of a code point. -/
  encode : Nat → List Nat
  /-- Whether a character, followed by a text, stands for itself. Nobody asks for a quotation mark. -/
  plain : Char → List Char → Bool
  /-- The code units of the escapes that are one character behind the backslash. -/
  simple : List (Char × Nat)
  /-- The escapes for a code unit: a letter, and the number of hexadecimal digits behind it. -/
  units : List (Char × Nat)
  /-- The escapes for a code point: a letter, and the number of hexadecimal digits behind it. -/
  points : List (Char × Nat)
  /-- How many hexadecimal digits may stand in the braces behind a `u`. -/
  bracedDigits : Nat → Bool
  /-- The code points that an escape may be for. -/
  isPoint : Nat → Bool
  /-- All other escapes: the code units, and how many characters the escape has behind the backslash, of which
  the first is given. -/
  other : Char → List Char → Option (List Nat × Nat)
  encode_length : ∀ n, 0 < (encode n).length ∧ (encode n).length ≤ 4
  encode_quote : (encode '"'.toNat).length = 1
  points_wide : ∀ p ∈ points, 3 ≤ p.2
  bracedDigits_pos : bracedDigits 0 = false
  other_length : ∀ c rest value n, other c rest = some (value, n) →
    value.length ≤ (((c :: rest).take n).flatMap fun d => encode d.toNat).length

namespace LiteralRules

variable (rules : LiteralRules)

/-- The code units of a text. -/
def unitsOf (text : List Char) : List Nat :=
  text.flatMap fun c => rules.encode c.toNat

/-- What a backslash in front of a text stands for, and how much of the text belongs to it. -/
def escape : List Char → Option (List Nat × Nat)
  | [] => none
  | c :: rest =>
    match rules.simple.lookup c with
    | some n => some ([n], 1)
    | none =>
      match if c = 'u' then braced? rest else none with
      | some digits =>
        if rules.bracedDigits digits.length then
          ((hexNumber? digits).filter rules.isPoint).map fun n => (rules.encode n, digits.length + 3)
        else none
      | none =>
        match rules.units.lookup c, rules.points.lookup c with
        | some width, _ => (fixedHex? width rest).map fun n => ([n], width + 1)
        | none, some width =>
          ((fixedHex? width rest).filter rules.isPoint).map fun n => (rules.encode n, width + 1)
        | none, none => rules.other c rest

/-- The value of a literal, read from behind its opening quotation mark, and what follows the closing one. There
is none where the literal is broken. -/
def read : List Char → Option (List Nat × List Char)
  | [] => none
  | c :: following =>
    if c = '"' then some ([], following)
    else if rules.plain c following then
      (read following).map fun (value, rest) => (rules.encode c.toNat ++ value, rest)
    else if c = '\\' then
      match rules.escape following with
      | some (value, n) => (read (following.drop n)).map fun (further, rest) => (value ++ further, rest)
      | none => none
    else none
termination_by text => text.length
decreasing_by
  all_goals simp only [List.length_cons, List.length_drop]; omega

/-! ## Lengths -/

@[simp] theorem unitsOf_nil : rules.unitsOf [] = [] := rfl

@[simp] theorem unitsOf_cons (c : Char) (text : List Char) :
    rules.unitsOf (c :: text) = rules.encode c.toNat ++ rules.unitsOf text := rfl

@[simp] theorem unitsOf_append (xs ys : List Char) :
    rules.unitsOf (xs ++ ys) = rules.unitsOf xs ++ rules.unitsOf ys :=
  List.flatMap_append

theorem length_le_unitsOf (text : List Char) : text.length ≤ (rules.unitsOf text).length := by
  induction text with
  | nil => exact Nat.le_refl 0
  | cons c rest ih =>
    have hpos := (rules.encode_length c.toNat).1
    rw [unitsOf_cons, List.length_append, List.length_cons]
    omega

/-- What is written with `n` characters has at least `n` code units. -/
theorem le_unitsOf_take {n : Nat} {text : List Char} (h : n ≤ text.length) :
    n ≤ (rules.unitsOf (text.take n)).length := by
  have hlength := rules.length_le_unitsOf (text.take n)
  rwa [List.length_take_of_le h] at hlength

theorem lt_length_of_braced? {text inner : List Char} (h : braced? text = some inner) :
    inner.length + 2 ≤ text.length := by
  unfold braced? at h
  split at h
  · rename_i rest
    dsimp only at h
    split at h
    · rename_i hlt
      obtain rfl := Option.some.inj h
      rw [List.length_cons]
      omega
    · cases h
  · cases h

theorem le_length_of_fixedHex? {width n : Nat} {text : List Char} (h : fixedHex? width text = some n) :
    width ≤ text.length := by
  unfold fixedHex? at h
  split at h
  · cases h
  · omega

/-- No escape stands for more code units than are behind its backslash. -/
theorem length_escape {following : List Char} {value : List Nat} {n : Nat}
    (h : rules.escape following = some (value, n)) :
    value.length ≤ (rules.unitsOf (following.take n)).length := by
  unfold escape at h
  split at h
  · cases h
  · rename_i c rest
    have htake : ∀ k, k ≤ rest.length + 1 → k ≤ (rules.unitsOf ((c :: rest).take k)).length :=
      fun k hk => rules.le_unitsOf_take (by rwa [List.length_cons])
    split at h
    · -- A letter stands for one code unit.
      obtain ⟨rfl, rfl⟩ := Prod.mk.inj (Option.some.inj h)
      exact htake 1 (by omega)
    · split at h
      · rename_i digits hbraced
        split at h
        · rename_i hdigits
          obtain ⟨code, -, hvalue⟩ := Option.map_eq_some_iff.mp h
          obtain ⟨rfl, rfl⟩ := Prod.mk.inj hvalue
          -- Between the braces there is a digit, which makes three characters with the braces, and a code point
          -- is two units at most.
          have hpos : digits.length ≠ 0 := by
            intro hzero
            rw [hzero, rules.bracedDigits_pos] at hdigits
            cases hdigits
          have hlength : digits.length + 2 ≤ rest.length := by
            split at hbraced
            · exact lt_length_of_braced? hbraced
            · cases hbraced
          have hle := (rules.encode_length code).2
          have := htake (digits.length + 3) (by omega)
          omega
        · cases h
      · split at h
        · rename_i width _
          obtain ⟨code, hcode, hvalue⟩ := Option.map_eq_some_iff.mp h
          obtain ⟨rfl, rfl⟩ := Prod.mk.inj hvalue
          have hlength := le_length_of_fixedHex? hcode
          have := htake (width + 1) (by omega)
          rw [List.length_singleton]
          omega
        · rename_i width _ hwidth
          obtain ⟨code, hcode, hvalue⟩ := Option.map_eq_some_iff.mp h
          obtain ⟨rfl, rfl⟩ := Prod.mk.inj hvalue
          -- An escape that stands for a code point is wide enough for two units.
          have hlength := le_length_of_fixedHex? (Option.eq_some_of_filter_eq_some hcode)
          have hle := (rules.encode_length code).2
          obtain ⟨before, after, hpoints, -⟩ := List.lookup_eq_some_iff.mp hwidth
          have hwide : 3 ≤ width := rules.points_wide (c, width) (by rw [hpoints]; simp)
          have := htake (width + 1) (by omega)
          omega
        · exact rules.other_length c rest value n h

/-- A literal is written with its quotation mark and at least as many code units as it stands for. -/
theorem length_read {text : List Char} {value : List Nat} {rest : List Char}
    (h : rules.read text = some (value, rest)) :
    value.length + 1 + (rules.unitsOf rest).length ≤ (rules.unitsOf text).length := by
  fun_induction read rules text generalizing value
  case case1 => cases h
  case case2 following =>
    obtain ⟨rfl, rfl⟩ := Prod.mk.inj (Option.some.inj h)
    have hpos := (rules.encode_length '"'.toNat).1
    rw [unitsOf_cons, List.length_append, List.length_nil]
    omega
  case case3 c following _ _ ih =>
    obtain ⟨⟨further, rest'⟩, hread, hvalue⟩ := Option.map_eq_some_iff.mp h
    obtain ⟨rfl, rfl⟩ := Prod.mk.inj hvalue
    have := ih hread
    rw [unitsOf_cons, List.length_append, List.length_append]
    omega
  -- An escape is dropped as a whole, and it has not less units than it stands for.
  case case4 following escaped n hescape _ _ ih =>
    obtain ⟨⟨further, rest'⟩, hread, hvalue⟩ := Option.map_eq_some_iff.mp h
    obtain ⟨rfl, rfl⟩ := Prod.mk.inj hvalue
    have := ih hread
    have hle := rules.length_escape hescape
    have hsplit : rules.unitsOf following =
        rules.unitsOf (following.take n) ++ rules.unitsOf (following.drop n) := by
      rw [← unitsOf_append, List.take_append_drop]
    rw [unitsOf_cons, hsplit, List.length_append, List.length_append, List.length_append]
    omega
  case case5 => cases h
  case case6 => cases h

/-! ## Texts that denote themselves -/

theorem forall_eq_append_cons {α : Type} {P : α → List α → Prop} {x : α} {xs : List α} :
    (∀ before y after, x :: xs = before ++ y :: after → P y after) ↔
      P x xs ∧ ∀ before y after, xs = before ++ y :: after → P y after := by
  constructor
  · intro h
    refine ⟨h [] x xs rfl, ?_⟩
    intro before y after hxs
    exact h (x :: before) y after (by rw [hxs, List.cons_append])
  · rintro ⟨hx, hxs⟩ before y after heq
    cases before with
    | nil =>
      obtain ⟨rfl, rfl⟩ := List.cons.inj heq
      exact hx
    | cons z before =>
      obtain ⟨-, htail⟩ := List.cons.inj heq
      exact hxs before y after htail

/-- A text between quotation marks denotes itself if and only if each of its characters stands for itself: what
an escape stands for is shorter than what it is written with. -/
theorem read_eq_some_iff (text rest : List Char) :
    rules.read (text ++ '"' :: rest) = some (rules.unitsOf text, rest) ↔
      ∀ before c after, text = before ++ c :: after →
        c ≠ '"' ∧ rules.plain c (after ++ '"' :: rest) = true := by
  induction text with
  | nil =>
    constructor
    · intro _ before c after hnil
      exact absurd hnil (by simp)
    · intro _
      rw [List.nil_append, read, if_pos rfl, unitsOf_nil]
  | cons c text ih =>
    rw [forall_eq_append_cons (P := fun c after => c ≠ '"' ∧ rules.plain c (after ++ '"' :: rest) = true),
      List.cons_append, read, unitsOf_cons, ← ih]
    have hpos := (rules.encode_length c.toNat).1
    by_cases hquote : c = '"'
    · -- The literal ends before the text does.
      rw [if_pos hquote]
      constructor
      · intro h
        have hvalue := congrArg List.length (Prod.mk.inj (Option.some.inj h)).1
        rw [List.length_nil, List.length_append] at hvalue
        omega
      · rintro ⟨⟨hne, -⟩, -⟩
        exact absurd hquote hne
    · rw [if_neg hquote]
      by_cases hplain : rules.plain c (text ++ '"' :: rest) = true
      · rw [if_pos hplain]
        simp [hquote, hplain, Option.map_eq_some_iff]
      · rw [if_neg hplain]
        refine ⟨?_, fun h => absurd h.1.2 hplain⟩
        intro h
        exfalso
        split at h
        · split at h
          · rename_i value n hescape
            -- An escape leaves fewer code units than the text has.
            obtain ⟨⟨further, rest'⟩, hread, hvalue⟩ := Option.map_eq_some_iff.mp h
            obtain ⟨hunits, hrest⟩ := Prod.mk.inj hvalue
            rw [hrest] at hread
            have hlength := congrArg List.length hunits
            have hread := rules.length_read hread
            have hescape := rules.length_escape hescape
            have hsplit := congrArg List.length (congrArg rules.unitsOf
              (List.take_append_drop n (text ++ '"' :: rest)))
            have hencoded := rules.encode_quote
            simp only [unitsOf_append, unitsOf_cons, List.length_append] at hlength hsplit hread hescape
            omega
          · cases h
        · cases h

end LiteralRules

end ServiceStubs.Text
