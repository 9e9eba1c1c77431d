import Mathlib.Data.List.Basic
import ServiceStubs.Target.Naming
import ServiceStubs.Text.WordCase

/-!
# Words of a name

Cutting a name into words loses nothing but the characters that are neither letters nor numbers. It therefore makes no
difference to the words whether a name is put into identifier characters first, and a name in camel case begins with
the upper-case form of its first letter or number.

* `flatten_words` puts the words together again, and `ne_nil_of_mem_words` says that none of them is empty;
* `upperCamel_map` says that it makes no difference which characters stand between words, and `upperCamel_sanitized`
  that identifier characters make none;
* `head?_upperCamel` is the first character in camel case;
* `forall_mem_upperCamel_iff` looks at all characters in camel case, by those of the name.
-/

namespace ServiceStubs.Text

/-! ## Putting words together again -/

theorem stretches_ne_nil (cs : List Char) : stretches cs ≠ [] := by
  cases cs with
  | nil => simp [stretches]
  | cons c rest =>
    unfold stretches
    split
    · simp
    · split <;> simp

/-- The stretches of a name have its letters and numbers in them. -/
theorem flatten_stretches (cs : List Char) : (stretches cs).flatten = cs.filter isAlphanumeric := by
  induction cs with
  | nil => rfl
  | cons c rest ih =>
    obtain ⟨s, others, hrest⟩ := List.exists_cons_of_ne_nil (stretches_ne_nil rest)
    rw [hrest] at ih
    rw [stretches, hrest, List.filter_cons]
    dsimp only
    split
    · rw [List.flatten_cons, List.cons_append, ← List.flatten_cons, ih]
    · rw [List.flatten_cons, List.nil_append, ih]

/-- The words of a stretch are its parts. -/
theorem flatten_humps (mode : WordMode) (word : List Char) {cs : List Char} (h : cs ≠ []) :
    (humps mode word cs).flatten = word.reverse ++ cs := by
  fun_induction humps mode word cs with
  | case1 => exact absurd rfl h
  | case2 mode word c => simp
  | case3 mode word c next rest _ ih =>
    rw [List.flatten_cons, ih (by simp)]
    simp
  | case4 mode word c next rest _ _ ih =>
    rw [List.flatten_cons, ih (by simp)]
    simp
  | case5 mode word c next rest _ _ ih =>
    rw [ih (by simp)]
    simp

theorem flatten_words (name : List Char) : (words name).flatten = name.filter isAlphanumeric := by
  have hparts : ∀ s ∈ stretches name, (humps .boundary [] s).flatMap id = id s := by
    intro s _
    rw [List.flatMap_id]
    by_cases hs : s = []
    · rw [hs, humps, List.flatten_nil, id]
    · rw [flatten_humps _ _ hs, List.reverse_nil, List.nil_append, id]
  unfold words
  rw [← flatten_stretches, ← List.flatMap_id, List.flatMap_assoc, List.flatMap_congr hparts, List.flatMap_id]

/-- Capitals are counted within a word only, so that what is cut off before the last of them is not empty. -/
theorem ne_nil_of_mem_humps {mode : WordMode} {word cs : List Char} (h : mode = .uppercase → word ≠ []) {w : List Char}
    (hw : w ∈ humps mode word cs) : w ≠ [] := by
  fun_induction humps mode word cs with
  | case1 => cases hw
  | case2 mode word c =>
    rw [List.mem_singleton] at hw
    simp [hw]
  | case3 mode word c next rest _ ih =>
    rcases List.mem_cons.mp hw with rfl | hw
    · simp
    · exact ih (by simp) hw
  | case4 mode word c next rest _ hcut ih =>
    rcases List.mem_cons.mp hw with rfl | hw
    · simpa using h hcut.1
    · exact ih (by simp) hw
  | case5 mode word c next rest _ _ ih => exact ih (by simp) hw

theorem ne_nil_of_mem_words {name w : List Char} (hw : w ∈ words name) : w ≠ [] := by
  obtain ⟨s, -, hw⟩ := List.mem_flatMap.mp hw
  exact ne_nil_of_mem_humps (by simp) hw

/-! ## Separators -/

/-- Stretches are told apart by what is no letter or number, whatever it is. -/
theorem stretches_map {f : Char → Char} (hkept : ∀ c, isAlphanumeric c → f c = c)
    (hother : ∀ c, ¬isAlphanumeric c → ¬isAlphanumeric (f c)) (cs : List Char) :
    stretches (cs.map f) = stretches cs := by
  induction cs with
  | nil => rfl
  | cons c rest ih =>
    rw [List.map_cons, stretches, stretches, ih]
    by_cases hc : isAlphanumeric c
    · rw [hkept c hc]
    · obtain ⟨s, others, hrest⟩ := List.exists_cons_of_ne_nil (stretches_ne_nil rest)
      simp [hrest, hc, hother c hc]

/-- Which character stands between two words makes no difference in camel case. -/
theorem upperCamel_map {f : Char → Char} (hkept : ∀ c, isAlphanumeric c → f c = c)
    (hother : ∀ c, ¬isAlphanumeric c → ¬isAlphanumeric (f c)) (name : String) :
    upperCamel (String.ofList (name.toList.map f)) = upperCamel name := by
  unfold upperCamel words
  rw [String.toList_ofList, stretches_map hkept hother]

/-! ## Identifier characters -/

theorem stretches_wordChars (cs : List Char) : stretches (wordChars cs) = stretches cs := by
  refine stretches_map (fun c hc => ?_) (fun c hc => ?_) cs
  · have hword : isWordChar c := by
      unfold isWordChar
      rw [hc, Bool.true_or]
    rw [if_pos hword]
  · have hunderscore : ¬isAlphanumeric '_' := by decide
    split
    · exact hc
    · exact hunderscore

/-- Neither the characters that stand for others nor an underscore in front make words. -/
theorem words_sanitized (name : String) : words (sanitized name).toList = words name.toList := by
  have hwords : words (wordChars name.toList) = words name.toList := by
    unfold words
    rw [stretches_wordChars]
  have hunderscore : isAlphanumeric '_' = false := by decide
  -- An underscore begins a stretch of its own, which is empty.
  have hbehind : ∀ cs, words ('_' :: cs) = words cs := by
    intro cs
    obtain ⟨s, others, hcs⟩ := List.exists_cons_of_ne_nil (stretches_ne_nil cs)
    unfold words
    rw [stretches, hcs]
    simp [hunderscore, humps]
  unfold sanitized
  rw [← hwords]
  split
  · rename_i hname
    rw [hname]
    exact hbehind []
  · rename_i c rest hname
    rw [hname, String.toList_ofList]
    split
    · exact hbehind (c :: rest)
    · rfl

theorem upperCamel_sanitized (name : String) : upperCamel (sanitized name) = upperCamel name := by
  unfold upperCamel
  rw [words_sanitized]

/-! ## Camel case -/

theorem uppercaseSpellings_ne_nil : ∀ e ∈ uppercaseSpellings, e.2 ≠ [] := by
  decide

theorem toUpper_ne_nil (c : Char) : toUpper c ≠ [] := by
  unfold toUpper changeCase
  split
  · simp
  · split
    · rename_i spelling hlookup
      obtain ⟨front, back, hsplit, -⟩ := List.lookup_eq_some_iff.mp hlookup
      have hne := uppercaseSpellings_ne_nil (c.toNat, spelling) (by simp [hsplit])
      simpa using hne
    · split <;> simp

/-- In camel case a name begins with its first letter or number, in upper case. -/
theorem head?_upperCamel (name : String) :
    (upperCamel name).toList.head? = (name.toList.find? isAlphanumeric).bind fun c => (toUpper c).head? := by
  have hflatten := flatten_words name.toList
  unfold upperCamel
  rw [String.toList_ofList, ← List.head?_filter, ← hflatten]
  rcases hwords : words name.toList with _ | ⟨w, others⟩
  · rfl
  · have hw : w ≠ [] := ne_nil_of_mem_words (hwords ▸ List.mem_cons_self)
    obtain ⟨c, rest, rfl⟩ := List.exists_cons_of_ne_nil hw
    obtain ⟨d, upper, hupper⟩ := List.exists_cons_of_ne_nil (toUpper_ne_nil c)
    simp [capitalized, hupper]

variable {P : Char → Prop}

/-- The final form of sigma aside, a word in lower case is made of the lower-case forms of its characters. -/
theorem forall_mem_lowerWord_iff (hsigma : P 'σ') (hfinal : P 'ς') (w : List Char) :
    (∀ d ∈ lowerWord w, P d) ↔ ∀ c ∈ w, ∀ d ∈ toLower c, P d := by
  induction w with
  | nil => simp [lowerWord]
  | cons c rest ih =>
    rw [List.forall_mem_cons]
    cases rest with
    | nil =>
      have hlower : toLower 'Σ' = ['σ'] := by decide +kernel
      unfold lowerWord
      split
      · rename_i hc
        subst hc
        simp [hlower, hsigma, hfinal]
      · simp
    | cons next rest =>
      rw [lowerWord, List.forall_mem_append, ih]
      exact List.cons_ne_nil next rest

/-- In camel case a name is made of the upper-case forms of the characters that begin words, and of the lower-case forms
of the others. -/
theorem forall_mem_upperCamel_iff (hsigma : P 'σ') (hfinal : P 'ς') (name : String) :
    (∀ d ∈ (upperCamel name).toList, P d) ↔
      ∀ w ∈ words name.toList, (∀ c ∈ w.head?, ∀ d ∈ toUpper c, P d) ∧ ∀ c ∈ w.tail, ∀ d ∈ toLower c, P d := by
  unfold upperCamel
  rw [String.toList_ofList, List.forall_mem_flatMap]
  refine forall₂_congr fun w hw => ?_
  obtain ⟨c, rest, rfl⟩ := List.exists_cons_of_ne_nil (ne_nil_of_mem_words hw)
  rw [capitalized, List.forall_mem_append, forall_mem_lowerWord_iff hsigma hfinal]
  simp

end ServiceStubs.Text
