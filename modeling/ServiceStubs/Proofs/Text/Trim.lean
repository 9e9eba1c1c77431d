import Mathlib.Data.List.DropRight
import ServiceStubs.Proofs.Text.Blank

/-!
# Laws of trimming

Texts are trimmed of blanks, and lists of lines of empty lines; both are cut off at either end, up to the first element
that stays. What is put in front or behind and would be cut off makes no difference.

* `dropEnds` is trimming at both ends, of any list;
* `dropEnds_append_left`, `dropEnds_append_right` and `dropEnds_eq_self_iff` are its laws;
* `linesFrom_eq` says which lines a text has, in terms of its parts between line feeds;
* `linesFrom_intercalate` gets trimmed lines back from their text.
-/

namespace ServiceStubs.Text

/-! ## Both ends of a list -/

section

variable {α : Type} {p : α → Bool}

/-- The list without the elements at either end that `p` holds of. -/
def dropEnds (p : α → Bool) (l : List α) : List α :=
  (l.dropWhile p).rdropWhile p

theorem dropEnds_append_left {front : List α} (h : ∀ a ∈ front, p a) (l : List α) :
    dropEnds p (front ++ l) = dropEnds p l := by
  unfold dropEnds
  rw [List.dropWhile_append_of_pos h]

theorem rdropWhile_append_of_pos {back : List α} (h : ∀ a ∈ back, p a) (l : List α) :
    (l ++ back).rdropWhile p = l.rdropWhile p := by
  unfold List.rdropWhile
  rw [List.reverse_append, List.dropWhile_append_of_pos (by simpa using h)]

theorem dropEnds_append_right {back : List α} (h : ∀ a ∈ back, p a) (l : List α) :
    dropEnds p (l ++ back) = dropEnds p l := by
  unfold dropEnds
  rw [List.dropWhile_append]
  split
  · rename_i hempty
    have hback : back.dropWhile p = [] := List.dropWhile_eq_nil_iff.mpr h
    rw [hback, List.isEmpty_iff.mp hempty]
  · exact rdropWhile_append_of_pos h _

theorem dropEnds_map {β : Type} (f : β → α) (l : List β) :
    dropEnds p (l.map f) = (dropEnds (p ∘ f) l).map f := by
  unfold dropEnds List.rdropWhile
  rw [List.dropWhile_map, ← List.map_reverse, List.dropWhile_map, List.map_reverse]

theorem dropEnds_infix (l : List α) : dropEnds p l <:+: l :=
  (List.rdropWhile_prefix p _).isInfix.trans (List.dropWhile_suffix p).isInfix

/-- A list stays if neither its first nor its last element is to be cut off. -/
theorem dropEnds_eq_self_iff (l : List α) :
    dropEnds p l = l ↔ (∀ a ∈ l.head?, ¬p a) ∧ ∀ a ∈ l.getLast?, ¬p a := by
  cases l with
  | nil => simp [dropEnds]
  | cons a l =>
    have hlast : ∀ hne : a :: l ≠ [], (a :: l).getLast? = some ((a :: l).getLast hne) :=
      fun hne => List.getLast?_eq_some_getLast hne
    by_cases ha : p a
    · -- What is left is shorter than the list if its first element is cut off.
      have hshort : (dropEnds p (a :: l)).length ≤ l.length := by
        have hprefix := (List.rdropWhile_prefix p ((a :: l).dropWhile p)).length_le
        rw [List.dropWhile_cons_of_pos ha] at hprefix
        unfold dropEnds
        rw [List.dropWhile_cons_of_pos ha]
        exact hprefix.trans (List.dropWhile_suffix p).length_le
      refine iff_of_false (fun h => ?_) fun h => h.1 a rfl ha
      rw [h, List.length_cons] at hshort
      omega
    · unfold dropEnds
      rw [List.dropWhile_cons_of_neg ha, List.rdropWhile_eq_self_iff, hlast (List.cons_ne_nil a l)]
      simp [ha]

/-- What is left is not cut again. -/
theorem dropEnds_dropEnds (l : List α) : dropEnds p (dropEnds p l) = dropEnds p l := by
  rw [dropEnds_eq_self_iff]
  have hprefix : dropEnds p l <+: l.dropWhile p := List.rdropWhile_prefix p _
  constructor
  · intro a ha
    -- What has been cut at the end begins as it did before, unless nothing is left.
    have hhead : (l.dropWhile p).head? = some a := by
      obtain ⟨rest, hrest⟩ := List.head?_eq_some_iff.mp ha
      obtain ⟨back, hback⟩ := hprefix
      rw [← hback, hrest]
      rfl
    have hnot := List.head?_dropWhile_not p l
    rw [hhead] at hnot
    simpa using hnot
  · intro a ha
    have hne : dropEnds p l ≠ [] := by
      rintro hnil
      rw [hnil] at ha
      cases ha
    have hlast := List.rdropWhile_last_not p (l.dropWhile p) hne
    rw [Option.mem_def, List.getLast?_eq_some_getLast hne] at ha
    obtain rfl := Option.some.inj ha
    exact hlast

end

/-! ## Blanks -/

theorem trim_of_blank {cs : List Char} (h : ∀ c ∈ cs, isBlank c) : trim cs = [] := by
  have happend := dropEnds_append_left h []
  rw [List.append_nil] at happend
  exact happend

theorem trim_trimEnd (cs : List Char) : trim (trimEnd cs) = trim cs := by
  obtain ⟨blanks, hblanks, hcs⟩ := exists_blanks cs
  calc trim (trimEnd cs) = trim (trimEnd cs ++ blanks) := (dropEnds_append_right hblanks _).symm
    _ = trim cs := by rw [← hcs]

theorem trim_dropReturn (line : List Char) : trim (dropReturn line) = trim line := by
  rw [← trim_trimEnd, trimEnd_dropReturn, trim_trimEnd]

/-- A trimmed line does not end with a carriage return. -/
theorem dropReturn_of_trimmed {line : List Char} (h : trim line = line) : dropReturn line = line := by
  rcases dropReturn_cases line with heq | heq
  · exact heq.symm
  · have hlast := ((dropEnds_eq_self_iff line).mp h).2 '\r' (by rw [heq]; simp)
    exact absurd (by decide) hlast

/-! ## Lines -/

/-- The lines of a text are its parts between line feeds, without the carriage returns at their ends, and without an
empty part at the end. -/
theorem linesFrom_eq {line : List Char} (h : '\n' ∉ line) (cs : List Char) :
    ∃ front last, splitAt '\n' (line.reverse ++ cs) = front ++ [last] ∧
      linesFrom line cs = front.map dropReturn ++ if last.isEmpty then [] else [last] := by
  induction cs generalizing line with
  | nil =>
    refine ⟨[], line.reverse, ?_, ?_⟩
    · rw [List.append_nil, splitAt_of_not_mem (by simpa using h)]
      rfl
    · unfold linesFrom
      simp
  | cons c cs ih =>
    unfold linesFrom
    by_cases hc : c = '\n'
    · -- The line ends here, and the next one begins with nothing.
      obtain ⟨front, last, hsplit, hlines⟩ := ih List.not_mem_nil
      refine ⟨line.reverse :: front, last, ?_, ?_⟩
      · rw [hc, splitAt_append_sep, splitAt_of_not_mem (by simpa using h)]
        exact congrArg (line.reverse :: ·) hsplit
      · rw [if_pos hc, hlines]
        rfl
    · have hline : '\n' ∉ c :: line := by
        rw [List.mem_cons, not_or]
        exact ⟨Ne.symm hc, h⟩
      obtain ⟨front, last, hsplit, hlines⟩ := ih hline
      refine ⟨front, last, ?_, ?_⟩
      · rw [← hsplit]
        simp
      · rw [if_neg hc, hlines]

/-- Trimmed lines, the last one not empty, are the lines of their text. -/
theorem linesFrom_intercalate {ls : List (List Char)} (hlines : ∀ l ∈ ls, '\n' ∉ l ∧ trim l = l)
    (hlast : ∀ l ∈ ls.getLast?, l ≠ []) : linesFrom [] (['\n'].intercalate ls) = ls := by
  rcases List.eq_nil_or_concat' ls with rfl | ⟨init, last, rfl⟩
  · rfl
  · obtain ⟨front, last', hsplit, heq⟩ := linesFrom_eq List.not_mem_nil (['\n'].intercalate (init ++ [last]))
    rw [List.reverse_nil, List.nil_append, splitAt_intercalate (by simp) fun l hl => (hlines l hl).1] at hsplit
    obtain ⟨rfl, hlast'⟩ := List.append_inj' hsplit rfl
    cases hlast'
    have hfront : init.map dropReturn = init := by
      refine (List.map_congr_left fun l hl => ?_).trans (List.map_id init)
      exact dropReturn_of_trimmed (hlines l (List.mem_append_left _ hl)).2
    have hne : last ≠ [] := hlast last (by simp)
    rw [heq, hfront]
    simp [hne]

end ServiceStubs.Text
