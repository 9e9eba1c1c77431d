import Mathlib.Data.List.Basic
import ServiceStubs.Proofs.Text.Split
import ServiceStubs.Text.Blank

/-!
# Laws of blanks and lines

What a scanner sees of a text does not change when the text is cut into lines, the blanks at their ends are cut
off, and blanks are put in front of them, as long as the scanner forgets where it was at each blank.

* `forall_linesFrom_iff` compares the lines of a text with its parts between line feeds;
* `Resets` is said of a scanner that starts again at blanks, and `Resets.foldl_lines` is the law.
-/

namespace ServiceStubs.Text

/-! ## Trimming -/

/-- What is cut off are blanks. -/
theorem exists_blanks (cs : List Char) : ∃ blanks, (∀ c ∈ blanks, isBlank c) ∧ cs = trimEnd cs ++ blanks := by
  refine ⟨(cs.reverse.takeWhile isBlank).reverse, ?_, ?_⟩
  · intro c hc
    exact List.all_eq_true.mp List.all_takeWhile c (List.mem_reverse.mp hc)
  · unfold trimEnd
    rw [← List.reverse_append, List.takeWhile_append_dropWhile, List.reverse_reverse]

theorem trimEnd_prefix (cs : List Char) : trimEnd cs <+: cs := by
  obtain ⟨blanks, -, hcs⟩ := exists_blanks cs
  exact ⟨blanks, hcs.symm⟩

/-- Nothing is cut off before a character that shows. -/
theorem trimEnd_append_cons {c : Char} (h : ¬isBlank c) (front back : List Char) :
    trimEnd (front ++ c :: back) = front ++ c :: trimEnd back := by
  have hreverse : (front ++ c :: back).reverse = back.reverse ++ c :: front.reverse := by simp
  unfold trimEnd
  rw [hreverse, List.dropWhile_append]
  split
  · rename_i hblank
    rw [List.isEmpty_iff.mp hblank, List.dropWhile_cons_of_neg h]
    simp
  · simp

theorem trimEnd_append_blank {c : Char} (h : isBlank c) (cs : List Char) : trimEnd (cs ++ [c]) = trimEnd cs := by
  unfold trimEnd
  rw [List.reverse_append, List.reverse_singleton, List.singleton_append, List.dropWhile_cons_of_pos h]

/-- A space in front of a line stays or is cut off with all of the line. -/
theorem mem_trimEnd_space {c : Char} (h : c ≠ ' ') (cs : List Char) :
    c ∈ trimEnd (' ' :: cs) ↔ c ∈ trimEnd cs := by
  unfold trimEnd
  rw [List.reverse_cons, List.dropWhile_append]
  split
  · rename_i hblank
    rw [List.isEmpty_iff.mp hblank, List.dropWhile_cons_of_pos (by decide)]
    simp
  · simp [h]

/-! ## Lines -/

theorem dropReturn_cases (line : List Char) : line = dropReturn line ∨ line = dropReturn line ++ ['\r'] := by
  unfold dropReturn
  split
  · rename_i rest hrest
    exact .inr (by rw [← List.reverse_cons, ← hrest, List.reverse_reverse])
  · exact .inl rfl

theorem trimEnd_dropReturn (line : List Char) : trimEnd (dropReturn line) = trimEnd line := by
  rcases dropReturn_cases line with h | h
  · rw [← h]
  · calc trimEnd (dropReturn line) = trimEnd (dropReturn line ++ ['\r']) := (trimEnd_append_blank (by decide) _).symm
      _ = trimEnd line := by rw [← h]

/-- Up to the blanks at their ends, the lines of a text are its parts between line feeds, without an empty one at
the end. -/
theorem forall_linesFrom_iff {P : List Char → Prop} (hnil : P []) {line cs : List Char} (h : '\n' ∉ line) :
    (∀ l ∈ linesFrom line cs, P (trimEnd l)) ↔ ∀ part ∈ splitAt '\n' (line.reverse ++ cs), P (trimEnd part) := by
  -- The line that has been begun is kept apart, so that the induction is over what is still to be read.
  induction cs generalizing line with
  | nil =>
    rw [List.append_nil, splitAt_of_not_mem (by simpa using h), List.forall_mem_singleton]
    unfold linesFrom
    split
    · rename_i hempty
      rw [List.isEmpty_iff.mp hempty]
      simpa [trimEnd] using hnil
    · rw [List.forall_mem_singleton]
  | cons c cs ih =>
    unfold linesFrom
    by_cases hc : c = '\n'
    · rw [if_pos hc, hc, splitAt_append_sep, splitAt_of_not_mem (by simpa using h), List.forall_mem_cons,
        List.singleton_append, List.forall_mem_cons, trimEnd_dropReturn, ih (by simp)]
      rfl
    · have hline : '\n' ∉ c :: line := by
        rw [List.mem_cons, not_or]
        exact ⟨Ne.symm hc, h⟩
      rw [if_neg hc, ih hline, List.reverse_cons, List.append_assoc]
      rfl

theorem linesFrom_ne_nil {line cs : List Char} (h : line ≠ [] ∨ cs ≠ []) : linesFrom line cs ≠ [] := by
  induction cs generalizing line with
  | nil =>
    unfold linesFrom
    have hline : line ≠ [] := h.resolve_right fun hne => hne rfl
    simp [hline]
  | cons c cs ih =>
    unfold linesFrom
    split
    · simp
    · exact ih (.inl (by simp))

/-! ## Scanners -/

section

variable {σ : Type} {step : σ → Char → σ} {reset : σ → σ}

/-- At a blank, the scanner is where it would be at any other blank, and stays there. -/
structure Resets (step : σ → Char → σ) (reset : σ → σ) : Prop where
  blank : ∀ s {c}, isBlank c → step s c = reset s
  again : ∀ s, reset (reset s) = reset s

theorem Resets.foldl_blanks (h : Resets step reset) {blanks : List Char} (hblanks : ∀ c ∈ blanks, isBlank c) (s : σ) :
    blanks.foldl step (reset s) = reset s := by
  induction blanks with
  | nil => rfl
  | cons c rest ih =>
    rw [List.forall_mem_cons] at hblanks
    rw [List.foldl_cons, h.blank _ hblanks.1, h.again, ih hblanks.2]

/-- What is cut off at the end is not missed at the next blank. -/
theorem Resets.foldl_trimEnd (h : Resets step reset) (cs : List Char) (s : σ) :
    reset ((trimEnd cs).foldl step s) = reset (cs.foldl step s) := by
  obtain ⟨blanks, hblanks, hcs⟩ := exists_blanks cs
  have hsplit : cs.foldl step s = blanks.foldl step ((trimEnd cs).foldl step s) := by
    rw [← List.foldl_append, ← hcs]
  rw [hsplit]
  cases blanks with
  | nil => rfl
  | cons c rest =>
    rw [List.forall_mem_cons] at hblanks
    rw [List.foldl_cons, h.blank _ hblanks.1, h.foldl_blanks hblanks.2, h.again]

/-- The lines of a text, trimmed and behind a lead that the scanner does not mind, are scanned like the text. -/
theorem Resets.foldl_lines (h : Resets step reset) {lead : List Char}
    (hlead : ∀ s, lead.foldl step (reset s) = reset s) (line cs : List Char) (s : σ) :
    ((linesFrom line cs).flatMap fun l => trimEnd (lead ++ l) ++ ['\n']).foldl step (reset s) =
      reset ((line.reverse ++ cs).foldl step (reset s)) := by
  -- A line ends in a blank, which puts the scanner in the state in which it begins the next one.
  have hline : ∀ (l : List Char) (s : σ),
      (trimEnd (lead ++ l) ++ ['\n']).foldl step (reset s) = reset (l.foldl step (reset s)) := by
    intro l s
    rw [List.foldl_append, List.foldl_cons, List.foldl_nil, h.blank _ (by decide), h.foldl_trimEnd,
      List.foldl_append, hlead]
  induction cs generalizing line s with
  | nil =>
    unfold linesFrom
    split
    · rename_i hempty
      rw [List.isEmpty_iff.mp hempty]
      exact (h.again s).symm
    · rw [List.flatMap_singleton, hline, List.append_nil]
  | cons c cs ih =>
    unfold linesFrom
    by_cases hc : c = '\n'
    · have hreturn : reset ((dropReturn line.reverse).foldl step (reset s)) =
          reset (line.reverse.foldl step (reset s)) := by
        rw [← h.foldl_trimEnd (dropReturn line.reverse), trimEnd_dropReturn, h.foldl_trimEnd]
      rw [if_pos hc, List.flatMap_cons, List.foldl_append, hline, hreturn, ih, List.reverse_nil, List.nil_append, hc,
        List.foldl_append, List.foldl_cons, h.blank _ (by decide)]
    · rw [if_neg hc, ih, List.reverse_cons, List.append_assoc]
      rfl

end

end ServiceStubs.Text
