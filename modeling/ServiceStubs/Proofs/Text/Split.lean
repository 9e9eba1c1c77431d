import ServiceStubs.Text.Split

/-!
# Laws of cutting

How the parts of a text change when the text does: at a separator it falls into the parts of both sides,
and what has no separator in it stays in one part.
-/

namespace ServiceStubs.Text

variable {sep : Char}

theorem splitAt_ne_nil (sep : Char) (cs : List Char) : splitAt sep cs ≠ [] := by
  cases cs with
  | nil => simp [splitAt]
  | cons c rest =>
    unfold splitAt
    split
    · simp
    · split
      · simp
      · simp

/-- A separator begins a new part. -/
theorem splitAt_cons_sep (sep : Char) (cs : List Char) : splitAt sep (sep :: cs) = [] :: splitAt sep cs := by
  rw [splitAt]
  rcases hcs : splitAt sep cs with _ | ⟨part, parts⟩
  · exact absurd hcs (splitAt_ne_nil sep cs)
  · simp

/-- Any other character goes into the first part. -/
theorem splitAt_cons_of_ne {c : Char} (hc : c ≠ sep) (cs : List Char) :
    ∃ part parts, splitAt sep cs = part :: parts ∧ splitAt sep (c :: cs) = (c :: part) :: parts := by
  rcases hcs : splitAt sep cs with _ | ⟨part, parts⟩
  · exact absurd hcs (splitAt_ne_nil sep cs)
  · exact ⟨part, parts, rfl, by simp [splitAt, hcs, hc]⟩

theorem splitAt_of_not_mem {cs : List Char} (h : sep ∉ cs) : splitAt sep cs = [cs] := by
  induction cs with
  | nil => rfl
  | cons c rest ih =>
    rw [List.mem_cons, not_or] at h
    obtain ⟨part, parts, hrest, hcons⟩ := splitAt_cons_of_ne (Ne.symm h.1) rest
    rw [ih h.2] at hrest
    cases hrest
    exact hcons

theorem length_splitAt (sep : Char) (cs : List Char) : (splitAt sep cs).length = cs.count sep + 1 := by
  induction cs with
  | nil => rfl
  | cons c rest ih =>
    by_cases hc : c = sep
    · subst hc
      rw [splitAt_cons_sep, List.length_cons, ih, List.count_cons_self]
    · obtain ⟨part, parts, hrest, hcons⟩ := splitAt_cons_of_ne hc rest
      rw [hrest] at ih
      rw [hcons, List.count_cons_of_ne hc, ← ih]
      rfl

theorem splitAt_append_sep (sep : Char) (xs ys : List Char) :
    splitAt sep (xs ++ sep :: ys) = splitAt sep xs ++ splitAt sep ys := by
  induction xs with
  | nil => exact splitAt_cons_sep sep ys
  | cons c rest ih =>
    rw [List.cons_append]
    by_cases hc : c = sep
    · subst hc
      rw [splitAt_cons_sep, splitAt_cons_sep, ih]
      rfl
    · obtain ⟨part, parts, hrest, hcons⟩ := splitAt_cons_of_ne hc rest
      obtain ⟨part', parts', hrest', hcons'⟩ := splitAt_cons_of_ne hc (rest ++ sep :: ys)
      rw [ih, hrest, List.cons_append] at hrest'
      cases hrest'
      rw [hcons', hcons]
      rfl

/-- Texts that a separator stands behind are cut each by itself. -/
theorem splitAt_lines {α : Type} (f : α → List Char) (ls : List α) (rest : List Char) :
    splitAt sep ((ls.flatMap fun l => f l ++ [sep]) ++ rest) =
      (ls.flatMap fun l => splitAt sep (f l)) ++ splitAt sep rest := by
  induction ls with
  | nil => rfl
  | cons l ls ih =>
    rw [List.flatMap_cons, List.flatMap_cons, List.append_assoc, List.append_assoc, List.append_assoc,
      List.singleton_append, splitAt_append_sep, ih]

theorem not_mem_of_mem_splitAt {cs part : List Char} (h : part ∈ splitAt sep cs) : sep ∉ part := by
  induction cs generalizing part with
  | nil =>
    rw [splitAt, List.mem_singleton] at h
    simp [h]
  | cons c rest ih =>
    by_cases hc : c = sep
    · subst hc
      rw [splitAt_cons_sep, List.mem_cons] at h
      rcases h with rfl | h
      · simp
      · exact ih h
    · obtain ⟨first, parts, hrest, hcons⟩ := splitAt_cons_of_ne hc rest
      rw [hcons, List.mem_cons] at h
      rw [hrest] at ih
      rcases h with rfl | h
      · rw [List.mem_cons, not_or]
        exact ⟨Ne.symm hc, ih List.mem_cons_self⟩
      · exact ih (List.mem_cons_of_mem first h)

/-- Every text is its last part, or something, a separator and its last part. -/
theorem splitAt_last (sep : Char) (cs : List Char) :
    (sep ∉ cs ∧ splitAt sep cs = [cs]) ∨
      ∃ front back, cs = front ++ sep :: back ∧ sep ∉ back ∧
        splitAt sep cs = splitAt sep front ++ [back] := by
  induction cs with
  | nil => exact .inl ⟨by simp, rfl⟩
  | cons c rest ih =>
    rcases ih with ⟨hnot, -⟩ | ⟨front, back, rfl, hback, -⟩
    · by_cases hc : c = sep
      · subst hc
        exact .inr ⟨[], rest, rfl, hnot, by rw [splitAt_cons_sep, splitAt_of_not_mem hnot]; rfl⟩
      · have hall : sep ∉ c :: rest := by
          rw [List.mem_cons, not_or]
          exact ⟨Ne.symm hc, hnot⟩
        exact .inl ⟨hall, splitAt_of_not_mem hall⟩
    · refine .inr ⟨c :: front, back, rfl, hback, ?_⟩
      rw [← List.cons_append, splitAt_append_sep, splitAt_of_not_mem hback]

/-- What has no separator goes into the last part. -/
theorem splitAt_append_of_not_mem {xs ys : List Char} (h : sep ∉ ys) :
    splitAt sep (xs ++ ys) = (splitAt sep xs).dropLast ++ [(splitAt sep xs).getLastD [] ++ ys] := by
  rcases splitAt_last sep xs with ⟨hnot, hsplit⟩ | ⟨front, back, rfl, hback, hsplit⟩
  · have hall : sep ∉ xs ++ ys := by
      rw [List.mem_append, not_or]
      exact ⟨hnot, h⟩
    rw [hsplit, splitAt_of_not_mem hall]
    rfl
  · have hall : sep ∉ back ++ ys := by
      rw [List.mem_append, not_or]
      exact ⟨hback, h⟩
    rw [hsplit, List.append_assoc, List.cons_append, splitAt_append_sep, splitAt_of_not_mem hall,
      List.dropLast_concat, List.getLastD_concat]

/-- A change of characters that keeps separators and makes no new ones is a change of the parts. -/
theorem splitAt_map {f : Char → Char} (hf : ∀ c, f c = sep ↔ c = sep) (cs : List Char) :
    splitAt sep (cs.map f) = (splitAt sep cs).map (List.map f) := by
  induction cs with
  | nil => rfl
  | cons c rest ih =>
    rw [List.map_cons]
    by_cases hc : c = sep
    · rw [(hf c).mpr hc, hc, splitAt_cons_sep, splitAt_cons_sep, ih]
      rfl
    · obtain ⟨part, parts, hrest, hcons⟩ := splitAt_cons_of_ne hc rest
      obtain ⟨part', parts', hrest', hcons'⟩ := splitAt_cons_of_ne (fun h => hc ((hf c).mp h)) (rest.map f)
      rw [ih, hrest, List.map_cons] at hrest'
      cases hrest'
      rw [hcons, hcons']
      rfl

theorem infix_intercalate {α : Type} {sep : List α} {parts : List (List α)} {part : List α} (h : part ∈ parts) :
    part <:+: sep.intercalate parts := by
  unfold List.intercalate
  apply List.infix_of_mem_flatten
  induction parts with
  | nil => cases h
  | cons first rest ih =>
    cases rest with
    | nil => simpa using h
    | cons second rest =>
      rw [List.intersperse_cons_cons]
      rcases List.mem_cons.mp h with rfl | h
      · exact List.mem_cons_self
      · exact List.mem_cons_of_mem _ (List.mem_cons_of_mem _ (ih h))

/-- A text is its parts with separators between them. -/
theorem intercalate_splitAt (sep : Char) (cs : List Char) : [sep].intercalate (splitAt sep cs) = cs := by
  induction cs with
  | nil => rfl
  | cons c rest ih =>
    by_cases hc : c = sep
    · subst hc
      rw [splitAt_cons_sep]
      rcases hrest : splitAt c rest with _ | ⟨part, parts⟩
      · exact absurd hrest (splitAt_ne_nil c rest)
      · rw [hrest] at ih
        rw [List.intercalate_cons_cons, ih]
        rfl
    · obtain ⟨part, parts, hrest, hcons⟩ := splitAt_cons_of_ne hc rest
      rw [hrest] at ih
      rw [hcons]
      cases parts with
      | nil => simpa using ih
      | cons second parts =>
        rw [List.intercalate_cons_cons] at ih ⊢
        rw [← ih]
        rfl

theorem infix_of_mem_splitAt {cs part : List Char} (h : part ∈ splitAt sep cs) : part <:+: cs := by
  have hinfix : part <:+: [sep].intercalate (splitAt sep cs) := infix_intercalate h
  rwa [intercalate_splitAt] at hinfix

/-- The parts of a text that has been put together from parts. -/
theorem splitAt_intercalate {parts : List (List Char)} (hne : parts ≠ []) (h : ∀ part ∈ parts, sep ∉ part) :
    splitAt sep ([sep].intercalate parts) = parts := by
  induction parts with
  | nil => exact absurd rfl hne
  | cons first rest ih =>
    rw [List.forall_mem_cons] at h
    cases rest with
    | nil =>
      rw [List.intercalate_singleton]
      exact splitAt_of_not_mem h.1
    | cons second rest =>
      rw [List.intercalate_cons_cons, List.append_assoc, List.singleton_append, splitAt_append_sep,
        splitAt_of_not_mem h.1, ih (by simp) h.2]
      rfl

/-- Parts are told apart by the text that is put together from them. -/
theorem intercalate_inj {parts parts' : List (List Char)} (hne : parts ≠ []) (hne' : parts' ≠ [])
    (h : ∀ part ∈ parts, sep ∉ part) (h' : ∀ part ∈ parts', sep ∉ part) :
    [sep].intercalate parts = [sep].intercalate parts' ↔ parts = parts' := by
  constructor
  · intro heq
    rw [← splitAt_intercalate hne h, heq, splitAt_intercalate hne' h']
  · rintro rfl
    rfl

/-- A character is replaced wherever it stands. -/
theorem replaceFrom_singleton (old : Char) (new cs : List Char) :
    replaceFrom [old] new 0 cs = cs.flatMap fun c => if c = old then new else [c] := by
  induction cs with
  | nil => rfl
  | cons c rest ih =>
    rw [List.flatMap_cons, replaceFrom, ← ih]
    by_cases hc : c = old
    · simp [hc]
    · simp [hc, Ne.symm hc]

/-- Nothing is replaced that does not occur. -/
theorem replaceFrom_of_not_occursIn {old new cs : List Char} (h : ¬occursIn old cs) :
    replaceFrom old new 0 cs = cs := by
  induction cs with
  | nil => rfl
  | cons c cs ih =>
    rw [occursIn, Bool.or_eq_true, not_or] at h
    rw [replaceFrom, ih h.2]
    simp [h.1]

/-- An ending without separators belongs to the last part. -/
theorem suffix_append_sep_iff {front back ending : List Char} (h : sep ∉ ending) :
    ending <:+ front ++ sep :: back ↔ ending <:+ back := by
  constructor
  · intro hsuffix
    rcases List.suffix_or_suffix_of_suffix hsuffix (List.suffix_append front (sep :: back)) with hshort | hlong
    · rcases List.suffix_cons_iff.mp hshort with heq | hshort
      · exact absurd (heq ▸ List.mem_cons_self) h
      · exact hshort
    · exact absurd (hlong.subset List.mem_cons_self) h
  · intro hsuffix
    exact hsuffix.trans ((List.suffix_cons sep back).trans (List.suffix_append front _))

theorem stripEnd?_append_self (s ending : String) : stripEnd? (s ++ ending) ending = some s := by
  unfold stripEnd? endsWith
  rw [if_pos (List.isSuffixOf_iff_suffix.mpr (by rw [String.toList_append]; exact List.suffix_append _ _))]
  simp

/-- A text that ends with something is what comes before and this. -/
theorem eq_append_of_stripEnd? {s ending stem : String} (h : stripEnd? s ending = some stem) :
    s = stem ++ ending := by
  unfold stripEnd? at h
  split at h
  · rename_i hends
    obtain ⟨front, hfront⟩ := List.isSuffixOf_iff_suffix.mp hends
    cases h
    apply String.toList_inj.mp
    rw [String.toList_append, String.toList_ofList, ← hfront]
    simp
  · cases h

end ServiceStubs.Text
