import ServiceStubs.Proofs.Text.Split

/-!
# Texts in which something has been replaced

Replacing one text by another from left to right can leave the first one behind: what is put in may complete an
occurrence with what stands before or after it. It does not if it has neither the first nor the last character of the
text that is replaced, and some character which that text does not have.

* `Apart` is this condition;
* `replaceFrom_cons` says what is replaced at a place, and `replaceFrom_induction` follows the replacement;
* `Apart.not_occursIn_replaceFrom` says that nothing is left behind.
-/

namespace ServiceStubs.Text

variable {old new : List Char}

/-- What is passed over is left out. -/
theorem replaceFrom_skip (old new : List Char) (skip : Nat) (cs : List Char) :
    replaceFrom old new skip cs = replaceFrom old new 0 (cs.drop skip) := by
  induction cs generalizing skip with
  | nil => simp [replaceFrom]
  | cons c cs ih =>
    cases skip with
    | zero => rfl
    | succ skip => rw [replaceFrom, ih, List.drop_succ_cons]

/-- Where the old text begins, it gives way to the new one; any other character stays. -/
theorem replaceFrom_cons (hne : old ≠ []) (new : List Char) (c : Char) (cs : List Char) :
    replaceFrom old new 0 (c :: cs) =
      if old <+: c :: cs then new ++ replaceFrom old new 0 ((c :: cs).drop old.length)
      else c :: replaceFrom old new 0 cs := by
  have hdrop : (c :: cs).drop old.length = cs.drop (old.length - 1) := by
    obtain ⟨first, rest, rfl⟩ := List.exists_cons_of_ne_nil hne
    simp
  have htest : (!old.isEmpty && old.isPrefixOf (c :: cs)) = decide (old <+: c :: cs) := by
    rw [List.isEmpty_eq_false_iff.mpr hne, Bool.eq_iff_iff]
    simp
  rw [replaceFrom, htest, replaceFrom_skip, hdrop]
  simp only [decide_eq_true_eq]

/-- A property of texts can be followed through a replacement: over occurrences of the old text, and over single
characters elsewhere. -/
theorem replaceFrom_induction (hne : old ≠ []) {motive : List Char → Prop} (nil : motive [])
    (replaced : ∀ rest, motive rest → motive (old ++ rest))
    (kept : ∀ c rest, ¬old <+: c :: rest → motive rest → motive (c :: rest)) (cs : List Char) : motive cs := by
  induction hlength : cs.length using Nat.strongRecOn generalizing cs with
  | ind length ih =>
    cases cs with
    | nil => exact nil
    | cons c rest =>
      by_cases hbegins : old <+: c :: rest
      · obtain ⟨rest', hrest⟩ := hbegins
        have hpositive := List.length_pos_iff.mpr hne
        have hshorter : rest'.length < length := by
          rw [← hlength, ← hrest, List.length_append]
          omega
        rw [← hrest]
        exact replaced rest' (ih _ hshorter rest' rfl)
      · exact kept c rest hbegins (ih _ (by simp [← hlength]) rest rfl)

theorem replaceFrom_append (hne : old ≠ []) (new rest : List Char) :
    replaceFrom old new 0 (old ++ rest) = new ++ replaceFrom old new 0 rest := by
  obtain ⟨c, cs, hcons⟩ := List.exists_cons_of_ne_nil (l := old ++ rest) (by simp [hne])
  have hbegins : old <+: c :: cs := hcons ▸ List.prefix_append old rest
  rw [hcons, replaceFrom_cons hne, if_pos hbegins, ← hcons, List.drop_left]

/-- The new text has neither the first nor the last character of the old one, but another one which that does not
have. -/
structure Apart (old new : List Char) : Prop where
  nonempty : old ≠ []
  first : old.head nonempty ∉ new
  last : old.getLast nonempty ∉ new
  other : ∃ c ∈ new, c ∉ old

/-- An occurrence of the old text does not begin in the new one. -/
theorem Apart.occursIn_append (h : Apart old new) (cs : List Char) : occursIn old (new ++ cs) ↔ occursIn old cs := by
  obtain ⟨first, rest, hold⟩ := List.exists_cons_of_ne_nil h.nonempty
  have hfirst : first ∉ new := by
    have hhead := h.first
    simpa [hold] using hhead
  clear h
  induction new with
  | nil => rfl
  | cons c new ih =>
    have hc : ¬old <+: c :: (new ++ cs) := by
      rw [hold, List.cons_prefix_cons]
      exact fun hbegins => hfirst (hbegins.1 ▸ List.mem_cons_self)
    rw [List.cons_append, occursIn, Bool.or_eq_true, List.isPrefixOf_iff_prefix, or_iff_right hc]
    exact ih fun hmem => hfirst (List.mem_cons_of_mem c hmem)

/-- Where the rest of an occurrence stands after the replacement, it has stood before: the new text is neither inside of
it nor ends it. -/
theorem Apart.prefix_of_prefix_replaceFrom (h : Apart old new) (cs : List Char) :
    ∀ {rest}, rest <:+ old → rest <+: replaceFrom old new 0 cs → rest <+: cs := by
  induction cs using replaceFrom_induction h.nonempty with
  | nil =>
    intro rest _ hbegins
    exact hbegins
  | replaced cs ih =>
    intro rest hsuffix hbegins
    rw [replaceFrom_append h.nonempty] at hbegins
    rcases List.eq_nil_or_concat rest with rfl | ⟨front, last, rfl⟩
    · exact List.nil_prefix
    · exfalso
      rw [List.concat_eq_append] at hsuffix hbegins
      have hlast : last = old.getLast h.nonempty := by
        obtain ⟨before, hbefore⟩ := hsuffix
        simp [← hbefore]
      -- Either the occurrence ends in the new text, or all of the new text is inside of it.
      rcases List.prefix_or_prefix_of_prefix hbegins (List.prefix_append new _) with hshort | hlong
      · exact h.last (hlast ▸ hshort.subset (by simp))
      · obtain ⟨c, hc, hother⟩ := h.other
        exact hother (hsuffix.subset (hlong.subset hc))
  | kept c cs hnot ih =>
    intro rest hsuffix hbegins
    rw [replaceFrom_cons h.nonempty, if_neg hnot] at hbegins
    cases rest with
    | nil => exact List.nil_prefix
    | cons first rest =>
      obtain ⟨rfl, hrest⟩ := List.cons_prefix_cons.mp hbegins
      exact List.cons_prefix_cons.mpr ⟨rfl, ih ((List.suffix_cons first rest).trans hsuffix) hrest⟩

/-- After the replacement the old text does not occur, whatever it has stood next to. -/
theorem Apart.not_occursIn_replaceFrom (h : Apart old new) (cs : List Char) :
    ¬occursIn old (replaceFrom old new 0 cs) := by
  induction cs using replaceFrom_induction h.nonempty with
  | nil => simpa [replaceFrom, occursIn] using h.nonempty
  | replaced cs ih => rwa [replaceFrom_append h.nonempty, h.occursIn_append]
  | kept c cs hnot ih =>
    -- An occurrence at the front would have been replaced.
    have hfront : ¬old <+: replaceFrom old new 0 (c :: cs) := fun hbegins =>
      hnot (h.prefix_of_prefix_replaceFrom (c :: cs) (List.suffix_refl old) hbegins)
    rw [replaceFrom_cons h.nonempty, if_neg hnot] at hfront ⊢
    rw [occursIn, Bool.or_eq_true, List.isPrefixOf_iff_prefix, or_iff_right hfront]
    exact ih

end ServiceStubs.Text
