import Mathlib.Data.List.Basic
import ServiceStubs.Text.Split

/-!
# Two characters in a row

Where a pair of characters occurs in a text that has been put together from parts, it occurs in one of them, or it
stands across a seam. The parts of generated code are mostly such that nothing can stand across their seams.

* `occursIn_pair_append` is the law of one seam;
* `occursIn_pair_flatMap` and `occursIn_pair_intercalate` are about many parts, with no pair across their seams;
* `KeepsPair.occursIn_flatMap` is about a text in which every character is replaced by an escape.
-/

namespace ServiceStubs.Text

variable {a b : Char}

@[simp]
theorem occursIn_pair_nil : occursIn [a, b] [] = false :=
  rfl

theorem occursIn_pair_cons (c : Char) (cs : List Char) :
    occursIn [a, b] (c :: cs) ↔ (c = a ∧ cs.head? = some b) ∨ occursIn [a, b] cs := by
  rw [occursIn, Bool.or_eq_true, List.isPrefixOf_iff_prefix, List.cons_prefix_cons]
  refine or_congr_left (and_congr eq_comm ?_)
  cases cs with
  | nil => simp
  | cons d cs => simp [List.cons_prefix_cons, eq_comm]

theorem occursIn_pair_append (xs ys : List Char) :
    occursIn [a, b] (xs ++ ys) ↔
      occursIn [a, b] xs ∨ occursIn [a, b] ys ∨ (xs.getLast? = some a ∧ ys.head? = some b) := by
  induction xs with
  | nil => simp
  | cons c xs ih =>
    rw [List.cons_append, occursIn_pair_cons, occursIn_pair_cons, ih]
    cases xs with
    | nil =>
      simp
      tauto
    | cons d xs =>
      simp
      tauto

/-- The pair occurs where it is written. -/
theorem occursIn_pair_iff_exists (cs : List Char) :
    occursIn [a, b] cs ↔ ∃ before after, cs = before ++ [a, b] ++ after := by
  constructor
  · intro h
    induction cs with
    | nil => cases h
    | cons c cs ih =>
      rcases (occursIn_pair_cons c cs).mp h with ⟨rfl, hhead⟩ | htail
      · obtain ⟨rest, rfl⟩ := List.head?_eq_some_iff.mp hhead
        exact ⟨[], rest, rfl⟩
      · obtain ⟨before, after, rfl⟩ := ih htail
        exact ⟨c :: before, after, rfl⟩
  · rintro ⟨before, after, rfl⟩
    rw [List.append_assoc, occursIn_pair_append]
    refine .inr (.inl ?_)
    rw [List.cons_append, occursIn_pair_cons]
    exact .inl ⟨rfl, rfl⟩

theorem occursIn_pair_of_infix {part cs : List Char} (h : part <:+: cs) (hpart : occursIn [a, b] part) :
    occursIn [a, b] cs := by
  obtain ⟨front, back, rfl⟩ := h
  rw [occursIn_pair_append, occursIn_pair_append]
  exact .inl (.inr (.inl hpart))

/-! ## Seams that nothing can stand across -/

/-- A text can stand behind anything, as it neither has the pair nor begins with its second character. -/
def IsTail (a b : Char) (cs : List Char) : Prop :=
  ¬occursIn [a, b] cs ∧ cs.head? ≠ some b

/-- A text can stand in front of anything, as it neither has the pair nor ends with its first character. -/
def IsFront (a b : Char) (cs : List Char) : Prop :=
  ¬occursIn [a, b] cs ∧ cs.getLast? ≠ some a

instance (a b : Char) (cs : List Char) : Decidable (IsTail a b cs) :=
  inferInstanceAs (Decidable (_ ∧ _))

instance (a b : Char) (cs : List Char) : Decidable (IsFront a b cs) :=
  inferInstanceAs (Decidable (_ ∧ _))

theorem IsTail.occursIn_append {back : List Char} (h : IsTail a b back) (cs : List Char) :
    occursIn [a, b] (cs ++ back) ↔ occursIn [a, b] cs := by
  rw [occursIn_pair_append]
  have hpair := h.1
  have hhead := h.2
  tauto

theorem IsFront.occursIn_append {front : List Char} (h : IsFront a b front) (cs : List Char) :
    occursIn [a, b] (front ++ cs) ↔ occursIn [a, b] cs := by
  rw [occursIn_pair_append]
  have hpair := h.1
  have hlast := h.2
  tauto

/-- The pair cannot stand across the ends of what is enclosed. -/
theorem occursIn_pair_enclosed {front back : List Char} (hfront : IsFront a b front) (hback : IsTail a b back)
    (cs : List Char) : occursIn [a, b] (front ++ cs ++ back) ↔ occursIn [a, b] cs := by
  rw [hback.occursIn_append, hfront.occursIn_append]

/-- Nor can it stand across a separator. -/
theorem occursIn_pair_separated {sep : List Char} (hne : sep ≠ []) (hfront : IsFront a b sep)
    (hback : IsTail a b sep) (xs ys : List Char) :
    occursIn [a, b] (xs ++ sep ++ ys) ↔ occursIn [a, b] xs ∨ occursIn [a, b] ys := by
  have hlast : (xs ++ sep).getLast? = sep.getLast? := List.getLast?_append_of_ne_nil _ hne
  rw [occursIn_pair_append, hback.occursIn_append, hlast]
  have hseam := hfront.2
  tauto

theorem occursIn_pair_intercalate {sep : List Char} (hne : sep ≠ []) (hfront : IsFront a b sep)
    (hback : IsTail a b sep) (parts : List (List Char)) :
    occursIn [a, b] (sep.intercalate parts) ↔ ∃ part ∈ parts, occursIn [a, b] part := by
  induction parts with
  | nil => simp
  | cons first rest ih =>
    cases rest with
    | nil => simp
    | cons second rest =>
      rw [List.intercalate_cons_cons, occursIn_pair_separated hne hfront hback, ih]
      simp

theorem head?_flatMap_ne {α : Type} {f : α → List Char} {parts : List α} (h : ∀ p ∈ parts, (f p).head? ≠ some b) :
    (parts.flatMap f).head? ≠ some b := by
  induction parts with
  | nil => simp
  | cons p parts ih =>
    rw [List.forall_mem_cons] at h
    rw [List.flatMap_cons]
    cases hp : f p with
    | nil => exact ih h.2
    | cons c cs =>
      have hfirst := h.1
      rw [hp] at hfirst
      simpa using hfirst

theorem exists_mem_flatMap {α β : Type} {f : α → List β} {parts : List α} {P : β → Prop} :
    (∃ b ∈ parts.flatMap f, P b) ↔ ∃ a ∈ parts, ∃ b ∈ f a, P b := by
  simp only [List.mem_flatMap]
  constructor
  · rintro ⟨b, ⟨a, ha, hb⟩, h⟩
    exact ⟨a, ha, b, hb, h⟩
  · rintro ⟨a, ha, b, hb, h⟩
    exact ⟨b, ⟨a, ha, hb⟩, h⟩

/-- Parts that do not begin with the second character follow each other. -/
theorem occursIn_pair_flatMap {α : Type} {f : α → List Char} {parts : List α}
    (h : ∀ p ∈ parts, (f p).head? ≠ some b) :
    occursIn [a, b] (parts.flatMap f) ↔ ∃ p ∈ parts, occursIn [a, b] (f p) := by
  induction parts with
  | nil => simp
  | cons p parts ih =>
    rw [List.forall_mem_cons] at h
    have hseam : ¬((f p).getLast? = some a ∧ (parts.flatMap f).head? = some b) :=
      fun hboth => head?_flatMap_ne h.2 hboth.2
    rw [List.flatMap_cons, occursIn_pair_append, ih h.2, List.exists_mem_cons_iff, or_iff_left hseam]

/-! ## Escapes -/

section

variable {escape : Char → List Char}

/-- Every character is replaced by something that has the characters of the pair where they were, and nowhere else. -/
structure KeepsPair (a b : Char) (escape : Char → List Char) : Prop where
  kept : ∀ c, c = a ∨ c = b → escape c = [c]
  ne_nil : ∀ c, escape c ≠ []
  not_mem : ∀ c, c ≠ a → c ≠ b → a ∉ escape c ∧ b ∉ escape c

theorem KeepsPair.head? (h : KeepsPair a b escape) (cs : List Char) :
    (cs.flatMap escape).head? = some b ↔ cs.head? = some b := by
  cases cs with
  | nil => simp
  | cons c cs =>
    rw [List.flatMap_cons]
    by_cases hc : c = a ∨ c = b
    · simp [h.kept c hc]
    · rw [not_or] at hc
      obtain ⟨d, ds, hds⟩ := List.exists_cons_of_ne_nil (h.ne_nil c)
      have hb := (h.not_mem c hc.1 hc.2).2
      rw [hds] at hb ⊢
      have hd : d ≠ b := fun h => hb (h ▸ List.mem_cons_self)
      simp [hd, hc.2]

theorem KeepsPair.occursIn_flatMap (h : KeepsPair a b escape) (cs : List Char) :
    occursIn [a, b] (cs.flatMap escape) ↔ occursIn [a, b] cs := by
  induction cs with
  | nil => exact Iff.rfl
  | cons c cs ih =>
    rw [List.flatMap_cons, occursIn_pair_append, ih, h.head?, occursIn_pair_cons]
    by_cases hc : c = a ∨ c = b
    · have hsingle : ¬occursIn [a, b] [c] := by simp [occursIn, List.isPrefixOf]
      have hlast : (escape c).getLast? = some a ↔ c = a := by simp [h.kept c hc]
      rw [hlast, h.kept c hc]
      tauto
    · rw [not_or] at hc
      have ha := (h.not_mem c hc.1 hc.2).1
      have hno : ¬occursIn [a, b] (escape c) := by
        intro hoccurs
        obtain ⟨before, after, hsplit⟩ := (occursIn_pair_iff_exists _).mp hoccurs
        exact ha (by simp [hsplit])
      have hlast : (escape c).getLast? ≠ some a := fun h => ha (List.mem_of_getLast? h)
      have hca := hc.1
      tauto

end

end ServiceStubs.Text
