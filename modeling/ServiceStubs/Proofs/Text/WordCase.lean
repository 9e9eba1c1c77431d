import ServiceStubs.Text.WordCase

/-!
# Separators and the case of words

Words are made of letters and digits, and no case change makes a `/` out of another character. A name in
camel or snake case therefore never contains one.
-/

namespace ServiceStubs.Text

/-! ## Case changes -/

/-- The tables of a case change never lead to the code point of `/`. -/
structure AvoidsSlash (shifts : List CaseShift) (spellings : List (Nat × List Nat)) : Prop where
  shifts : ∀ s ∈ shifts, (47 : Int) < s.run.first + s.distance
  spellings : ∀ e ∈ spellings, ∀ n ∈ e.2, n ≠ 47

theorem ofNat_ne_slash {n : Nat} (h : n ≠ 47) : Char.ofNat n ≠ '/' := by
  intro heq
  by_cases hvalid : n.isValidChar
  · have hchar : Char.ofNat n = Char.ofNatAux n hvalid := dif_pos hvalid
    rw [hchar] at heq
    have hnat : n = '/'.toNat := congrArg Char.toNat heq
    exact h hnat
  · have hchar : Char.ofNat n = Char.ofNat 0 := dif_neg hvalid
    rw [hchar] at heq
    exact absurd heq (by decide)

theorem slash_not_mem_changeCase {shifts : List CaseShift} {spellings : List (Nat × List Nat)}
    (h : AvoidsSlash shifts spellings) {c : Char} (hc : c ≠ '/') : '/' ∉ changeCase shifts spellings c := by
  unfold changeCase
  rcases hlookup : spellings.lookup c.toNat with _ | spelling
  · rcases hfind : shifts.find? (fun s => s.run.has c.toNat) with _ | s
    · simpa [hlookup, hfind] using Ne.symm hc
    · have hrun : s.run.has c.toNat := by simpa using List.find?_some hfind
      have hfirst : s.run.first ≤ c.toNat := by
        unfold CodeRun.has at hrun
        simp only [Bool.and_eq_true, decide_eq_true_eq] at hrun
        exact hrun.1.1
      have hshift := h.shifts s (List.mem_of_find?_eq_some hfind)
      have hne := ofNat_ne_slash (n := (c.toNat + s.distance).toNat) (by omega)
      simpa [hlookup, hfind] using Ne.symm hne
  · intro hmem
    obtain ⟨n, hn, heq⟩ := List.mem_map.mp hmem
    obtain ⟨front, back, hsplit, -⟩ := List.lookup_eq_some_iff.mp hlookup
    exact ofNat_ne_slash (h.spellings (c.toNat, spelling) (by simp [hsplit]) n hn) heq

theorem uppercase_avoidsSlash : AvoidsSlash uppercaseShifts uppercaseSpellings :=
  ⟨by decide +kernel, by decide +kernel⟩

theorem lowercase_avoidsSlash : AvoidsSlash lowercaseShifts lowercaseSpellings :=
  ⟨by decide +kernel, by decide +kernel⟩

/-- What holds of the first 128 characters one by one holds of all ASCII characters. -/
theorem ascii_forall {P : Char → Prop} (h : ∀ n < 128, P (Char.ofNat n)) {c : Char}
    (hc : c.toNat < 128) : P c := by
  have hn := h c.toNat hc
  rwa [Char.ofNat_toNat] at hn

theorem slash_not_mem_toUpper {c : Char} (hc : c ≠ '/') : '/' ∉ toUpper c := by
  unfold toUpper
  split
  · rename_i hascii
    have hupper : c ≠ '/' → '/' ≠ c.toUpper := ascii_forall (P := fun c => c ≠ '/' → '/' ≠ c.toUpper)
      (by decide +kernel) hascii
    rw [List.mem_singleton]
    exact hupper hc
  · exact slash_not_mem_changeCase uppercase_avoidsSlash hc

theorem slash_not_mem_toLower {c : Char} (hc : c ≠ '/') : '/' ∉ toLower c := by
  unfold toLower
  split
  · rename_i hascii
    have hlower : c ≠ '/' → '/' ≠ c.toLower := ascii_forall (P := fun c => c ≠ '/' → '/' ≠ c.toLower)
      (by decide +kernel) hascii
    rw [List.mem_singleton]
    exact hlower hc
  · exact slash_not_mem_changeCase lowercase_avoidsSlash hc

/-! ## Words -/

theorem not_isAlphanumeric_slash : ¬isAlphanumeric '/' := by
  decide +kernel

theorem slash_not_mem_stretches (cs : List Char) : ∀ s ∈ stretches cs, '/' ∉ s := by
  -- No list of stretches is empty, so that a first character always meets a stretch.
  have hcons : stretches cs ≠ [] ∧ ∀ s ∈ stretches cs, '/' ∉ s := by
    induction cs with
    | nil => simp [stretches]
    | cons c rest ih =>
      obtain ⟨hne, hall⟩ := ih
      unfold stretches
      rcases hrest : stretches rest with _ | ⟨s, others⟩
      · exact absurd hrest hne
      · rw [hrest] at hall
        dsimp only
        split
        · rename_i hc
          refine ⟨by simp, ?_⟩
          intro s' hs'
          rcases List.mem_cons.mp hs' with rfl | hs'
          · rw [List.mem_cons, not_or]
            refine ⟨?_, hall s List.mem_cons_self⟩
            rintro rfl
            exact not_isAlphanumeric_slash hc
          · exact hall s' (List.mem_cons_of_mem s hs')
        · refine ⟨by simp, ?_⟩
          intro s' hs'
          rcases List.mem_cons.mp hs' with rfl | hs'
          · simp
          · exact hall s' hs'
  exact hcons.2

/-- The characters of the words are those of the stretch. -/
theorem mem_of_mem_humps {mode : WordMode} {word cs : List Char} {w : List Char} (hw : w ∈ humps mode word cs)
    {c : Char} (hc : c ∈ w) : c ∈ word ∨ c ∈ cs := by
  induction cs generalizing mode word with
  | nil => simp [humps] at hw
  | cons first rest ih =>
    -- Where a word ends depends on the next character, too.
    cases rest with
    | nil =>
      simp only [humps, List.mem_singleton] at hw
      subst hw
      rw [List.mem_reverse, List.mem_cons] at hc
      rcases hc with rfl | hc
      · exact .inr List.mem_cons_self
      · exact .inl hc
    | cons next rest =>
      unfold humps at hw
      split at hw
      · rcases List.mem_cons.mp hw with rfl | hw
        · rw [List.mem_reverse, List.mem_cons] at hc
          rcases hc with rfl | hc
          · exact .inr List.mem_cons_self
          · exact .inl hc
        · exact (ih hw).elim (by simp) fun h => .inr (List.mem_cons_of_mem first h)
      · split at hw
        · rcases List.mem_cons.mp hw with rfl | hw
          · exact .inl (List.mem_reverse.mp hc)
          · rcases ih hw with h | h
            · rw [List.mem_singleton] at h
              exact .inr (h ▸ List.mem_cons_self)
            · exact .inr (List.mem_cons_of_mem first h)
        · rcases ih hw with h | h
          · rcases List.mem_cons.mp h with rfl | h
            · exact .inr List.mem_cons_self
            · exact .inl h
          · exact .inr (List.mem_cons_of_mem first h)

theorem slash_not_mem_words (name : List Char) : ∀ w ∈ words name, '/' ∉ w := by
  intro w hw hslash
  obtain ⟨s, hs, hws⟩ := List.mem_flatMap.mp hw
  rcases mem_of_mem_humps hws hslash with h | h
  · cases h
  · exact slash_not_mem_stretches name s hs h

/-! ## Names -/

theorem slash_not_mem_lowerWord {word : List Char} (h : '/' ∉ word) : '/' ∉ lowerWord word := by
  induction word with
  | nil => simp [lowerWord]
  | cons c rest ih =>
    rw [List.mem_cons, not_or] at h
    cases rest with
    | nil =>
      unfold lowerWord
      split
      · decide
      · exact slash_not_mem_toLower (Ne.symm h.1)
    | cons next rest =>
      unfold lowerWord
      rw [List.mem_append, not_or]
      exact ⟨slash_not_mem_toLower (Ne.symm h.1), ih h.2⟩

theorem slash_not_mem_capitalized {word : List Char} (h : '/' ∉ word) : '/' ∉ capitalized word := by
  cases word with
  | nil => simp [capitalized]
  | cons c rest =>
    rw [List.mem_cons, not_or] at h
    unfold capitalized
    rw [List.mem_append, not_or]
    exact ⟨slash_not_mem_toUpper (Ne.symm h.1), slash_not_mem_lowerWord h.2⟩

theorem slash_not_mem_lowerCamel (name : String) : '/' ∉ (lowerCamel name).toList := by
  have hwords := slash_not_mem_words name.toList
  unfold lowerCamel
  rcases hname : words name.toList with _ | ⟨first, rest⟩
  · simp
  · rw [hname] at hwords
    rw [String.toList_ofList, List.mem_append, not_or]
    refine ⟨slash_not_mem_lowerWord (hwords first List.mem_cons_self), ?_⟩
    intro hmem
    obtain ⟨w, hw, hslash⟩ := List.mem_flatMap.mp hmem
    exact slash_not_mem_capitalized (hwords w (List.mem_cons_of_mem first hw)) hslash

theorem slash_not_mem_snakeCase (name : String) : '/' ∉ (snakeCase name).toList := by
  have hwords : ∀ w ∈ (words name.toList).map lowerWord, '/' ∉ w := by
    intro w hw
    obtain ⟨w', hw', rfl⟩ := List.mem_map.mp hw
    exact slash_not_mem_lowerWord (slash_not_mem_words name.toList w' hw')
  unfold snakeCase
  rw [String.toList_ofList]
  generalize (words name.toList).map lowerWord = ws at hwords
  induction ws with
  | nil => simp [List.intercalate]
  | cons w rest ih =>
    have hw := hwords w List.mem_cons_self
    have hrest := ih fun w' hw' => hwords w' (List.mem_cons_of_mem w hw')
    cases rest with
    | nil => simpa [List.intercalate] using hw
    | cons next rest =>
      rw [List.intercalate_cons_cons]
      simp only [List.mem_append, List.mem_singleton, not_or]
      exact ⟨⟨hw, by decide⟩, hrest⟩

end ServiceStubs.Text
