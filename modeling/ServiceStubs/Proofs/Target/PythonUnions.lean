import ServiceStubs.Proofs.Text.Occurrence
import ServiceStubs.Target.Python

/-!
# Unions in Python

The spelling of a union is the spellings of its alternatives with ` | ` between them. The same mark stands between the
alternatives of a list's items, so that not all parts of a spelling are alternatives of the type: those within brackets
are not. A type is marked as optional without regard to brackets, and is taken to admit `None` already where only its
items do.

* `alternativesOf` are the alternatives of a type, and `contentsOf` the types within its brackets;
* `outerAlternatives_typeText` finds the alternatives in the spelling, by counting brackets;
* `alternatives_typeText` and `noneAmong_pieces` say where `None` is found without counting them;
* `admitsNone_optionalText_iff` says which types admit `None` when they are marked as optional.
-/

namespace ServiceStubs

/-- A text has none of the marks in it with which types are put together. No identifier has any. -/
def IsUnmarked (cs : List Char) : Prop :=
  ∀ c ∈ cs, c ∉ ['|', '[', ']', '?', '*']

instance (cs : List Char) : Decidable (IsUnmarked cs) :=
  List.decidableBAll _ cs

theorem IsUnmarked.not_mem {cs : List Char} (h : IsUnmarked cs) {c : Char} (hc : c ∈ ['|', '[', ']', '?', '*']) :
    c ∉ cs :=
  fun hmem => h c hmem hc

/-- The names in a type have no marks in them. -/
def HasUnmarkedNames (t : DataType) : Prop :=
  ∀ ref ∈ t.references, IsUnmarked ref.name.toList

namespace HasUnmarkedNames

theorem item {item : DataType} (h : HasUnmarkedNames (.array item)) : HasUnmarkedNames item := by
  unfold HasUnmarkedNames at h ⊢
  rwa [DataType.references] at h

theorem value {key value : DataType} (h : HasUnmarkedNames (.map key value)) : HasUnmarkedNames value := by
  unfold HasUnmarkedNames at h
  rw [DataType.references] at h
  exact fun ref href => h ref (List.mem_append_right _ href)

theorem result {result : DataType} (h : HasUnmarkedNames (.promise result)) : HasUnmarkedNames result := by
  unfold HasUnmarkedNames at h ⊢
  rwa [DataType.references] at h

theorem member {members : List DataType} (h : HasUnmarkedNames (.union members)) {m : DataType} (hm : m ∈ members) :
    HasUnmarkedNames m := by
  unfold HasUnmarkedNames at h
  rw [DataType.references] at h
  exact fun ref href => h ref (List.mem_flatMap.mpr ⟨m, hm, href⟩)

theorem name {ref : TypeRef} (h : HasUnmarkedNames (.named ref)) : IsUnmarked ref.name.toList := by
  unfold HasUnmarkedNames at h
  rwa [DataType.references, List.forall_mem_singleton] at h

end HasUnmarkedNames

namespace Python

/-! ## Alternatives and contents -/

/-- The types of which a type is the union. -/
def alternativesOf : DataType → List DataType
  | .promise result => alternativesOf result
  | .union [] => [.any]
  | .union members => members.flatMap fun m => alternativesOf m
  | t => [t]
termination_by t => sizeOf t

/-- The types of the items and values in a type, at any depth. -/
def contentsOf : DataType → List DataType
  | .array item => item :: contentsOf item
  | .map _ value => value :: contentsOf value
  | .promise result => contentsOf result
  | .union members => members.flatMap fun m => contentsOf m
  | _ => []
termination_by t => sizeOf t

/-- How the alternatives of a type are spelled. -/
def alternativeTexts (t : DataType) : List String :=
  (alternativesOf t).map fun a => typeText a

/-! ## Alternatives in a text -/

/-- How many brackets are open behind a character. -/
def depthAfter (depth : Nat) (c : Char) : Nat :=
  if c = '[' then depth + 1 else if c = ']' then depth - 1 else depth

/-- A text cut at every ` | ` where the depth is zero. The depth is counted from character to character. -/
def cutOutside (after : Nat → Char → Nat) (depth : Nat) (alternative : List Char) : List Char → List (List Char)
  | ' ' :: '|' :: ' ' :: rest =>
    if depth = 0 then alternative.reverse :: cutOutside after 0 [] rest
    else cutOutside after depth (' ' :: '|' :: ' ' :: alternative) rest
  | c :: rest => cutOutside after (after depth c) (c :: alternative) rest
  | [] => [alternative.reverse]

/-- The alternatives in a text, which stand between the ` | ` outside of all brackets. -/
def outerAlternatives (text : String) : List (List Char) :=
  cutOutside depthAfter 0 [] text.toList

/-- A text that is `None`, or `Any`, or a union with `None` outside of all brackets. -/
def AdmitsNone (text : String) : Prop :=
  text = "None" ∨ text = "Any" ∨ "None".toList ∈ outerAlternatives text

instance (text : String) : Decidable (AdmitsNone text) :=
  inferInstanceAs (Decidable (_ ∨ _))

/-! ## Parts of a spelling -/

/-- A text in front of the first part. -/
def prependFirst (front : String) : List String → List String
  | [] => [front]
  | part :: parts => (front ++ part) :: parts

/-- A text behind the last part. -/
def appendLast (back : String) (parts : List String) : List String :=
  parts.dropLast ++ [parts.getLastD "" ++ back]

/-- The parts of the spelling of a type between the ` | `, within brackets or not. -/
def pieces : DataType → List String
  | .array item => prependFirst "list[" (appendLast "]" (pieces item))
  | .map key value => prependFirst ("dict[" ++ keyText key ++ ", ") (appendLast "]" (pieces value))
  | .promise result => pieces result
  | .union [] => ["Any"]
  | .union members => members.flatMap fun m => pieces m
  | t => [typeText t]
termination_by t => sizeOf t

theorem prependFirst_ne_nil (front : String) (parts : List String) : prependFirst front parts ≠ [] := by
  cases parts <;> simp [prependFirst]

theorem appendLast_concat (back : String) (parts : List String) (last : String) :
    appendLast back (parts ++ [last]) = parts ++ [last ++ back] := by
  simp [appendLast]

theorem intercalate_prependFirst (sep front : String) (parts : List String) :
    sep.intercalate (prependFirst front parts) = front ++ sep.intercalate parts := by
  match parts with
  | [] => simp [prependFirst]
  | [part] => simp [prependFirst]
  | part :: next :: parts =>
    rw [prependFirst, String.intercalate_cons_cons, String.intercalate_cons_cons, String.append_assoc,
      String.append_assoc, String.append_assoc]

theorem intercalate_appendLast (sep back : String) (parts : List String) :
    sep.intercalate (appendLast back parts) = sep.intercalate parts ++ back := by
  rcases List.eq_nil_or_concat' parts with rfl | ⟨init, last, rfl⟩
  · simp [appendLast]
  · rw [appendLast_concat]
    cases init with
    | nil => simp
    | cons first init =>
      rw [String.intercalate_append_of_ne_nil (by simp) (by simp), String.intercalate_append_of_ne_nil (by simp)
        (by simp), String.intercalate_singleton, String.intercalate_singleton]
      simp only [String.append_assoc]

theorem intercalate_flatMap {α : Type} (sep : String) {f : α → List String} {parts : List α}
    (h : ∀ a ∈ parts, f a ≠ []) :
    sep.intercalate (parts.flatMap f) = sep.intercalate (parts.map fun a => sep.intercalate (f a)) := by
  induction parts with
  | nil => rfl
  | cons a parts ih =>
    rw [List.forall_mem_cons] at h
    rw [List.flatMap_cons, List.map_cons]
    cases parts with
    | nil => simp
    | cons b parts =>
      have hrest : (b :: parts).flatMap f ≠ [] := by
        have hb := h.2 b List.mem_cons_self
        simp [hb]
      rw [String.intercalate_append_of_ne_nil h.1 hrest, ih h.2, List.map_cons, String.intercalate_cons_cons]

theorem pieces_ne_nil (t : DataType) : pieces t ≠ [] := by
  fun_induction pieces t with
  | case1 => exact prependFirst_ne_nil _ _
  | case2 => exact prependFirst_ne_nil _ _
  | case3 result ih => exact ih
  | case4 => simp
  | case5 members hne ih =>
    obtain ⟨m, rest, rfl⟩ := List.exists_cons_of_ne_nil hne
    have hm := ih m List.mem_cons_self
    simp [hm]
  | case6 => simp

theorem alternativesOf_ne_nil (t : DataType) : alternativesOf t ≠ [] := by
  fun_induction alternativesOf t with
  | case1 result ih => exact ih
  | case2 => simp
  | case3 members hne ih =>
    obtain ⟨m, rest, rfl⟩ := List.exists_cons_of_ne_nil hne
    have hm := ih m List.mem_cons_self
    simp [hm]
  | case4 => simp

theorem alternativeTexts_ne_nil (t : DataType) : alternativeTexts t ≠ [] := by
  unfold alternativeTexts
  simpa using alternativesOf_ne_nil t

/-- The spelling of a type is its parts, with ` | ` between them. -/
theorem typeText_eq_pieces (t : DataType) : typeText t = " | ".intercalate (pieces t) := by
  fun_induction pieces t with
  | case1 item ih => rw [typeText, intercalate_prependFirst, intercalate_appendLast, ← ih, String.append_assoc]
  | case2 key value ih => rw [typeText, intercalate_prependFirst, intercalate_appendLast, ← ih, String.append_assoc]
  | case3 result ih => rw [typeText, ih]
  | case4 => simp [typeText]
  | case5 members hne ih =>
    rw [typeText, intercalate_flatMap _ fun m _ => pieces_ne_nil m]
    · exact congrArg _ (List.map_congr_left ih)
    · exact hne
  | case6 t => rw [String.intercalate_singleton]

/-- It is the spellings of its alternatives, with ` | ` between them, as well. -/
theorem typeText_eq_alternatives (t : DataType) : typeText t = " | ".intercalate (alternativeTexts t) := by
  unfold alternativeTexts
  fun_induction alternativesOf t with
  | case1 result ih => rw [typeText, ih]
  | case2 => simp [typeText]
  | case3 members hne ih =>
    rw [typeText, List.map_flatMap, intercalate_flatMap]
    · exact congrArg _ (List.map_congr_left ih)
    · intro m _
      simpa using alternativesOf_ne_nil m
    · exact hne
  | case4 t => rw [List.map_singleton, String.intercalate_singleton]

/-! ## Cutting -/

section

variable {after : ℕ → Char → ℕ} {depth : ℕ}

/-- A text is passed over as a whole, whatever comes before and after it. -/
structure PassedOver (after : ℕ → Char → ℕ) (depth : ℕ) (cs : List Char) : Prop where
  scan : ∀ alternative rest, rest.head? ≠ some '|' →
    cutOutside after depth alternative (cs ++ rest) = cutOutside after depth (cs.reverse ++ alternative) rest
  head : cs.head? ≠ some '|'

theorem cutOutside_cons {c : Char} {rest : List Char} (h : rest.head? ≠ some '|') (alternative : List Char) :
    cutOutside after depth alternative (c :: rest) = cutOutside after (after depth c) (c :: alternative) rest := by
  rw [cutOutside]
  rintro rest' rfl heq
  rw [heq] at h
  exact h rfl

theorem passedOver_nil : PassedOver after depth [] :=
  ⟨fun _ _ _ => rfl, by simp⟩

theorem PassedOver.append {xs ys : List Char} (hxs : PassedOver after depth xs) (hys : PassedOver after depth ys) :
    PassedOver after depth (xs ++ ys) := by
  refine ⟨fun alternative rest hrest => ?_, ?_⟩
  · have hseam : (ys ++ rest).head? ≠ some '|' := by
      cases ys with
      | nil => exact hrest
      | cons c ys => exact hys.head
    rw [List.append_assoc, hxs.scan _ _ hseam, hys.scan _ _ hrest, List.reverse_append, List.append_assoc]
  · cases xs with
    | nil => exact hys.head
    | cons c xs => exact hxs.head

/-- A character is passed over if it is no mark and does not change the depth. -/
theorem passedOver_of_forall {cs : List Char} (h : ∀ c ∈ cs, c ≠ '|' ∧ after depth c = depth) :
    PassedOver after depth cs := by
  induction cs with
  | nil => exact passedOver_nil
  | cons c cs ih =>
    rw [List.forall_mem_cons] at h
    have hfirst : PassedOver after depth [c] := by
      refine ⟨fun alternative rest hrest => ?_, by simpa using h.1.1⟩
      rw [List.singleton_append, cutOutside_cons hrest, h.1.2]
      rfl
    exact hfirst.append (ih h.2)

/-- Texts that are passed over are the parts of what is put together from them. -/
theorem cutOutside_intercalate {parts : List String} (hne : parts ≠ [])
    (h : ∀ part ∈ parts, PassedOver after 0 part.toList) :
    cutOutside after 0 [] (" | ".intercalate parts).toList = parts.map String.toList := by
  induction parts with
  | nil => exact absurd rfl hne
  | cons part parts ih =>
    rw [List.forall_mem_cons] at h
    cases parts with
    | nil =>
      have hscan := h.1.scan [] [] (by simp)
      rw [List.append_nil] at hscan
      rw [String.intercalate_singleton, hscan]
      simp [cutOutside]
    | cons next parts =>
      have hscan := h.1.scan [] (" | ".toList ++ (" | ".intercalate (next :: parts)).toList) (by simp)
      rw [String.intercalate_cons_cons, String.toList_append, String.toList_append, List.append_assoc, hscan,
        List.map_cons, ← ih (by simp) h.2]
      simp [cutOutside]

end

/-! ## All parts -/

theorem alternatives_eq (alternative cs : List Char) :
    alternatives alternative cs = cutOutside (fun depth _ => depth) 0 alternative cs := by
  fun_induction alternatives alternative cs with
  | case1 alternative rest ih => rw [cutOutside, if_pos rfl, ih]
  | case2 alternative c rest hne ih =>
    rw [cutOutside, ih]
    exact hne
  | case3 => rfl

theorem not_mem_prependFirst {c : Char} {front : String} {parts : List String} (hfront : c ∉ front.toList)
    (h : ∀ part ∈ parts, c ∉ part.toList) : ∀ part ∈ prependFirst front parts, c ∉ part.toList := by
  cases parts with
  | nil => simpa [prependFirst] using hfront
  | cons first parts =>
    rw [List.forall_mem_cons] at h
    refine List.forall_mem_cons.mpr ⟨?_, h.2⟩
    rw [String.toList_append, List.mem_append, not_or]
    exact ⟨hfront, h.1⟩

theorem not_mem_appendLast {c : Char} {back : String} {parts : List String} (hback : c ∉ back.toList)
    (h : ∀ part ∈ parts, c ∉ part.toList) : ∀ part ∈ appendLast back parts, c ∉ part.toList := by
  rcases List.eq_nil_or_concat' parts with rfl | ⟨init, last, rfl⟩
  · simpa [appendLast] using hback
  · rw [List.forall_mem_append, List.forall_mem_singleton] at h
    rw [appendLast_concat, List.forall_mem_append, List.forall_mem_singleton, String.toList_append, List.mem_append,
      not_or]
    exact ⟨h.1, h.2, hback⟩

theorem keyText_cases (key : DataType) : keyText key = "int" ∨ keyText key = "float" ∨ keyText key = "str" := by
  cases key <;> simp [keyText]

/-- No part of the spelling has the mark in it. -/
theorem not_mem_pieces {t : DataType} (h : HasUnmarkedNames t) :
    ∀ part ∈ pieces t, '|' ∉ part.toList := by
  fun_induction pieces t with
  | case1 item ih => exact not_mem_prependFirst (by decide) (not_mem_appendLast (by decide) (ih h.item))
  | case2 key value ih =>
    have hkey : '|' ∉ ("dict[" ++ keyText key ++ ", ").toList := by
      rcases keyText_cases key with hkey | hkey | hkey <;> rw [hkey] <;> decide
    exact not_mem_prependFirst hkey (not_mem_appendLast (by decide) (ih h.value))
  | case3 result ih => exact ih h.result
  | case4 => decide
  | case5 members hne ih =>
    intro part hpart
    obtain ⟨m, hm, hpart⟩ := List.mem_flatMap.mp hpart
    exact ih m hm (h.member hm) part hpart
  -- A type that is not taken apart is spelled as a name or as a fixed text.
  | case6 t harray hmap hpromise hempty hunion =>
    rw [List.forall_mem_singleton]
    cases t with
    | named ref =>
      rw [typeText]
      exact h.name.not_mem (by decide)
    | array item => exact absurd rfl (harray item)
    | map key value => exact absurd rfl (hmap key value)
    | promise result => exact absurd rfl (hpromise result)
    | union members => exact absurd rfl (hunion members)
    | _ => simp [typeText]

/-- Without regard to brackets, a spelling is cut into all its parts. -/
theorem alternatives_typeText {t : DataType} (h : HasUnmarkedNames t) :
    alternatives [] (typeText t).toList = (pieces t).map String.toList := by
  rw [alternatives_eq, typeText_eq_pieces]
  refine cutOutside_intercalate (pieces_ne_nil t) fun part hpart => passedOver_of_forall fun c hc => ⟨?_, rfl⟩
  rintro rfl
  exact not_mem_pieces h part hpart hc

/-! ## Parts outside of brackets -/

theorem passedOver_unmarked {cs : List Char} (h : IsUnmarked cs) (depth : ℕ) :
    PassedOver depthAfter depth cs := by
  refine passedOver_of_forall fun c hc => ?_
  have hmarks := h c hc
  simp only [List.mem_cons, not_or] at hmarks
  obtain ⟨hmark, hopen, hclose, -⟩ := hmarks
  exact ⟨hmark, by simp [depthAfter, hopen, hclose]⟩

/-- What stands in brackets is passed over with them. -/
theorem passedOver_enclosed {front inner : List Char} {depth : ℕ} (hfront : PassedOver depthAfter depth front)
    (hinner : PassedOver depthAfter (depth + 1) inner) :
    PassedOver depthAfter depth (front ++ '[' :: inner ++ [']']) := by
  have hclose : PassedOver depthAfter depth ('[' :: inner ++ [']']) := by
    -- The opening bracket raises the depth for what is inside, and the closing one lowers it again.
    refine ⟨fun alternative rest hrest => ?_, by simp⟩
    have hopened : (inner ++ ']' :: rest).head? ≠ some '|' := by
      cases inner with
      | nil => simp
      | cons c inner => exact hinner.head
    rw [List.append_assoc, List.cons_append, List.singleton_append, cutOutside_cons hopened]
    have hdepth : depthAfter depth '[' = depth + 1 := rfl
    rw [hdepth, hinner.scan _ _ (by simp), cutOutside_cons hrest]
    have hdepth' : depthAfter (depth + 1) ']' = depth := rfl
    rw [hdepth']
    simp
  rw [List.append_assoc]
  exact hfront.append hclose

/-- Within brackets, a union is passed over. -/
theorem passedOver_intercalate {parts : List String} {depth : ℕ}
    (h : ∀ part ∈ parts, PassedOver depthAfter (depth + 1) part.toList) :
    PassedOver depthAfter (depth + 1) (" | ".intercalate parts).toList := by
  have hmark : PassedOver depthAfter (depth + 1) " | ".toList := by
    refine ⟨fun alternative rest _ => ?_, by decide⟩
    exact if_neg (Nat.succ_ne_zero depth)
  induction parts with
  | nil => exact passedOver_nil
  | cons part parts ih =>
    rw [List.forall_mem_cons] at h
    cases parts with
    | nil =>
      rw [String.intercalate_singleton]
      exact h.1
    | cons next parts =>
      rw [String.intercalate_cons_cons, String.toList_append, String.toList_append]
      exact (h.1.append hmark).append (ih h.2)

theorem passedOver_content {t : DataType}
    (h : ∀ a ∈ alternativesOf t, ∀ depth, PassedOver depthAfter depth (typeText a).toList) (depth : ℕ) :
    PassedOver depthAfter (depth + 1) (typeText t).toList := by
  rw [typeText_eq_alternatives, alternativeTexts]
  refine passedOver_intercalate ?_
  rw [List.forall_mem_map]
  exact fun a ha => h a ha (depth + 1)

/-- An alternative of a type is passed over. -/
theorem passedOver_alternative {t : DataType} (h : HasUnmarkedNames t) :
    ∀ a ∈ alternativesOf t, ∀ depth, PassedOver depthAfter depth (typeText a).toList := by
  fun_induction pieces t with
  | case1 item ih =>
    simp only [alternativesOf, List.forall_mem_singleton]
    intro depth
    have htext : (typeText (.array item)).toList = "list".toList ++ '[' :: (typeText item).toList ++ [']'] := by
      simp [typeText]
    rw [htext]
    -- The marks between the alternatives of the items stand one level deeper, where nothing is cut.
    exact passedOver_enclosed (passedOver_unmarked (by decide) depth) (passedOver_content (ih h.item) depth)
  | case2 key value ih =>
    simp only [alternativesOf, List.forall_mem_singleton]
    intro depth
    have hkey : IsUnmarked (keyText key ++ ", ").toList := by
      rcases keyText_cases key with hkey | hkey | hkey <;> rw [hkey] <;> decide
    have hvalue := passedOver_content (ih h.value) depth
    have htext : (typeText (.map key value)).toList =
        "dict".toList ++ '[' :: ((keyText key ++ ", ").toList ++ (typeText value).toList) ++ [']'] := by
      simp [typeText]
    rw [htext]
    exact passedOver_enclosed (passedOver_unmarked (by decide) depth) ((passedOver_unmarked hkey _).append hvalue)
  | case3 result ih =>
    rw [alternativesOf]
    exact ih h.result
  | case4 =>
    simp only [alternativesOf, List.forall_mem_singleton, typeText]
    exact passedOver_unmarked (by decide)
  | case5 members hne ih =>
    rw [alternativesOf]
    · intro a ha
      obtain ⟨m, hm, ha⟩ := List.mem_flatMap.mp ha
      exact ih m hm (h.member hm) a ha
    · exact hne
  | case6 t harray hmap hpromise hempty hunion =>
    cases t with
    | named ref =>
      simp only [alternativesOf, List.forall_mem_singleton, typeText]
      exact passedOver_unmarked h.name
    | record fields =>
      simp only [alternativesOf, List.forall_mem_singleton, typeText]
      intro depth
      have hfront : IsUnmarked "dict".toList := by decide
      have hinner : IsUnmarked "str, Any".toList := by decide
      exact passedOver_enclosed (passedOver_unmarked hfront depth) (passedOver_unmarked hinner (depth + 1))
    | array item => exact absurd rfl (harray item)
    | map key value => exact absurd rfl (hmap key value)
    | promise result => exact absurd rfl (hpromise result)
    | union members => exact absurd rfl (hunion members)
    | _ =>
      simp only [alternativesOf, List.forall_mem_singleton, typeText]
      exact passedOver_unmarked (by decide)

theorem passedOver_alternativeText {t : DataType} (h : HasUnmarkedNames t) :
    ∀ text ∈ alternativeTexts t, PassedOver depthAfter 0 text.toList := by
  unfold alternativeTexts
  rw [List.forall_mem_map]
  exact fun a ha => passedOver_alternative h a ha 0

/-- Outside of brackets, a spelling is cut into those of the alternatives. -/
theorem outerAlternatives_typeText {t : DataType} (h : HasUnmarkedNames t) :
    outerAlternatives (typeText t) = (alternativeTexts t).map String.toList := by
  rw [typeText_eq_alternatives]
  exact cutOutside_intercalate (alternativeTexts_ne_nil t) (passedOver_alternativeText h)

/-- A `None` that is put behind a spelling is one more alternative. -/
theorem outerAlternatives_none {t : DataType} (h : HasUnmarkedNames t) :
    outerAlternatives (typeText t ++ " | None") = outerAlternatives (typeText t) ++ ["None".toList] := by
  have hnone : PassedOver depthAfter 0 "None".toList := passedOver_unmarked (by decide) 0
  have htext : typeText t ++ " | None" = " | ".intercalate (alternativeTexts t ++ ["None"]) := by
    rw [String.intercalate_append_of_ne_nil (alternativeTexts_ne_nil t) (by simp), ← typeText_eq_alternatives,
      String.intercalate_singleton, String.append_assoc]
    rfl
  have hparts : ∀ text ∈ alternativeTexts t ++ ["None"], PassedOver depthAfter 0 text.toList :=
    List.forall_mem_append.mpr ⟨passedOver_alternativeText h, List.forall_mem_singleton.mpr hnone⟩
  rw [outerAlternatives_typeText h, htext, outerAlternatives, cutOutside_intercalate (by simp) hparts, List.map_append]
  rfl

/-! ## Where `None` stands -/

/-- `None` is one of the texts, and not at an end where it may not be. -/
def NoneAmong (front back : Prop) (texts : List String) : Prop :=
  ∃ before after, texts = before ++ "None" :: after ∧ (before = [] → front) ∧ (after = [] → back)

/-- `None` stands between other alternatives of the items or values of a list or dictionary, at any depth. -/
def HidesNone (t : DataType) : Prop :=
  ∃ content ∈ contentsOf t, NoneAmong False False (alternativeTexts content)

section

variable {front back : Prop}

theorem noneAmong_true_iff (texts : List String) : NoneAmong True True texts ↔ "None" ∈ texts := by
  rw [List.mem_iff_append]
  unfold NoneAmong
  simp

theorem noneAmong_singleton (text : String) : NoneAmong front back [text] ↔ text = "None" ∧ front ∧ back := by
  constructor
  · rintro ⟨before, after, heq, hfront, hback⟩
    obtain ⟨rfl, rfl, rfl⟩ : before = [] ∧ text = "None" ∧ after = [] := by
      cases before with
      | nil => simpa using heq
      | cons first before => simp at heq
    exact ⟨rfl, hfront rfl, hback rfl⟩
  · rintro ⟨rfl, hfront, hback⟩
    exact ⟨[], [], rfl, fun _ => hfront, fun _ => hback⟩

/-- Where texts follow each other, `None` stands among one or the other. -/
theorem noneAmong_append {xs ys : List String} (hxs : xs ≠ []) (hys : ys ≠ []) :
    NoneAmong front back (xs ++ ys) ↔ NoneAmong front True xs ∨ NoneAmong True back ys := by
  constructor
  · rintro ⟨before, after, heq, hfront, hback⟩
    rcases List.append_eq_append_iff.mp heq with ⟨mid, rfl, hmid⟩ | ⟨mid, rfl, hmid⟩
    · exact .inr ⟨mid, after, hmid, fun _ => trivial, hback⟩
    · cases mid with
      | nil =>
        -- The first list ends just before `None`.
        rw [List.nil_append] at hmid
        exact .inr ⟨[], after, hmid.symm, fun _ => trivial, hback⟩
      | cons first mid =>
        obtain ⟨rfl, rfl⟩ := List.cons.inj hmid
        exact .inl ⟨before, mid, rfl, hfront, fun _ => trivial⟩
  · rintro (⟨before, after, rfl, hfront, -⟩ | ⟨before, after, rfl, -, hback⟩)
    · exact ⟨before, after ++ ys, by simp, hfront, fun hnil => absurd (List.append_eq_nil_iff.mp hnil).2 hys⟩
    · exact ⟨xs ++ before, after, by simp, fun hnil => absurd (List.append_eq_nil_iff.mp hnil).1 hxs, hback⟩

/-- What is said of `None` among the texts for each of some parts can be said of all of them. -/
theorem noneAmong_flatMap {α : Type} {f g : α → List String} {P : α → Prop} {parts : List α}
    (hf : ∀ a ∈ parts, f a ≠ []) (hg : ∀ a ∈ parts, g a ≠ [])
    (h : ∀ a ∈ parts, ∀ front back, NoneAmong front back (f a) ↔ NoneAmong front back (g a) ∨ P a) :
    NoneAmong front back (parts.flatMap f) ↔ NoneAmong front back (parts.flatMap g) ∨ ∃ a ∈ parts, P a := by
  induction parts generalizing front with
  | nil => simp
  | cons a parts ih =>
    rw [List.forall_mem_cons] at hf hg h
    rw [List.flatMap_cons, List.flatMap_cons, List.exists_mem_cons_iff]
    cases parts with
    | nil => simpa using h.1 front back
    | cons b parts =>
      have hrest : ∀ {e : α → List String}, (∀ c ∈ b :: parts, e c ≠ []) → (b :: parts).flatMap e ≠ [] := by
        intro e he
        have hb := he b List.mem_cons_self
        simp [hb]
      rw [noneAmong_append hf.1 (hrest hf.2), noneAmong_append hg.1 (hrest hg.2), h.1, ih hf.2 hg.2 h.2]
      tauto

theorem ne_none_of_mem {c : Char} {text : String} (hc : c ∈ ['[', ']']) (h : c ∈ text.toList) : text ≠ "None" := by
  rintro rfl
  rcases List.mem_pair.mp hc with rfl | rfl
  · exact absurd h (by decide)
  · exact absurd h (by decide)

/-- At the end that a bracket is glued to, `None` is not found any more. -/
theorem noneAmong_prependFirst {text : String} (h : '[' ∈ text.toList) {parts : List String} (hne : parts ≠ []) :
    NoneAmong front back (prependFirst text parts) ↔ NoneAmong False back parts := by
  obtain ⟨part, parts, rfl⟩ := List.exists_cons_of_ne_nil hne
  have hglued : text ++ part ≠ "None" := ne_none_of_mem (c := '[') (by decide) (by simp [h])
  cases parts with
  | nil => simp [prependFirst, noneAmong_singleton, hglued]
  | cons next parts =>
    have hcons : ∀ first : String, first :: next :: parts = [first] ++ next :: parts := fun _ => rfl
    rw [prependFirst, hcons, hcons part, noneAmong_append (by simp) (by simp), noneAmong_append (by simp) (by simp),
      noneAmong_singleton, noneAmong_singleton]
    simp [hglued]

theorem noneAmong_appendLast {text : String} (h : ']' ∈ text.toList) {parts : List String} (hne : parts ≠ []) :
    NoneAmong front back (appendLast text parts) ↔ NoneAmong front False parts := by
  rcases List.eq_nil_or_concat' parts with rfl | ⟨init, last, rfl⟩
  · exact absurd rfl hne
  · have hglued : last ++ text ≠ "None" := ne_none_of_mem (c := ']') (by decide) (by simp [h])
    rw [appendLast_concat]
    cases init with
    | nil => simp [noneAmong_singleton, hglued]
    | cons first init =>
      rw [noneAmong_append (by simp) (by simp), noneAmong_append (by simp) (by simp), noneAmong_singleton,
        noneAmong_singleton]
      simp [hglued]

end

/-- Among the parts of a spelling, `None` is an alternative, or one that is hidden in brackets. -/
theorem noneAmong_pieces (t : DataType) (front back : Prop) :
    NoneAmong front back (pieces t) ↔ NoneAmong front back (alternativeTexts t) ∨ HidesNone t := by
  fun_induction pieces t generalizing front back with
  | case1 item ih =>
    -- Brackets are glued to both ends of the parts, so that `None` is found between two of them only.
    have hbracket : typeText (.array item) ≠ "None" := ne_none_of_mem (c := '[') (by decide) (by simp [typeText])
    rw [noneAmong_prependFirst (by decide) (by simp [appendLast]),
      noneAmong_appendLast (by decide) (pieces_ne_nil item), ih, HidesNone, HidesNone, contentsOf,
      List.exists_mem_cons_iff]
    simp [alternativeTexts, alternativesOf, noneAmong_singleton, hbracket]
  | case2 key value ih =>
    have hbracket : typeText (.map key value) ≠ "None" := ne_none_of_mem (c := '[') (by decide) (by simp [typeText])
    rw [noneAmong_prependFirst (by simp) (by simp [appendLast]),
      noneAmong_appendLast (by decide) (pieces_ne_nil value), ih, HidesNone, HidesNone, contentsOf,
      List.exists_mem_cons_iff]
    simp [alternativeTexts, alternativesOf, noneAmong_singleton, hbracket]
  | case3 result ih =>
    rw [ih, HidesNone, HidesNone, contentsOf, alternativeTexts, alternativeTexts, alternativesOf]
  | case4 => simp [alternativeTexts, alternativesOf, HidesNone, contentsOf, noneAmong_singleton, typeText]
  | case5 members hne ih =>
    have hhides : HidesNone (.union members) ↔ ∃ m ∈ members, HidesNone m := by
      unfold HidesNone
      rw [contentsOf, Text.exists_mem_flatMap]
    have htexts : alternativeTexts (.union members) = members.flatMap alternativeTexts := by
      unfold alternativeTexts
      rw [alternativesOf, List.map_flatMap]
      exact hne
    rw [hhides, htexts]
    exact noneAmong_flatMap (fun m _ => pieces_ne_nil m) (fun m _ => alternativeTexts_ne_nil m) ih
  | case6 t harray hmap hpromise hempty hunion =>
    have hcontents : contentsOf t = [] := by
      rw [contentsOf] <;> assumption
    have halternatives : alternativesOf t = [t] := by
      rw [alternativesOf] <;> assumption
    simp [HidesNone, hcontents, alternativeTexts, halternatives]

/-- So it is found in the spelling of a type if it is an alternative, or hidden in brackets. -/
theorem none_mem_alternatives_iff {t : DataType} (h : HasUnmarkedNames t) :
    "None".toList ∈ alternatives [] (typeText t).toList ↔ "None" ∈ alternativeTexts t ∨ HidesNone t := by
  rw [alternatives_typeText h, List.mem_map_of_injective fun _ _ => String.toList_inj.mp, ← noneAmong_true_iff,
    noneAmong_pieces, noneAmong_true_iff]

theorem none_mem_outerAlternatives_iff {t : DataType} (h : HasUnmarkedNames t) :
    "None".toList ∈ outerAlternatives (typeText t) ↔ "None" ∈ alternativeTexts t := by
  rw [outerAlternatives_typeText h, List.mem_map_of_injective fun _ _ => String.toList_inj.mp]

/-! ## Marking a type -/

/-- A marked type admits `None` unless it has been left as it is for a `None` that is hidden in brackets. -/
theorem admitsNone_optionalText_iff {t : DataType} (h : HasUnmarkedNames t) :
    AdmitsNone (optionalText (typeText t)) ↔ "None" ∈ alternativeTexts t ∨ ¬HidesNone t := by
  have hfound := none_mem_alternatives_iff h
  have houter := none_mem_outerAlternatives_iff h
  -- A text without brackets hides nothing.
  have hnone : typeText t = "None" → "None" ∈ alternativeTexts t := by
    intro htext
    rw [← houter, htext]
    decide
  have hany : typeText t = "Any" → ¬HidesNone t := by
    intro htext hhides
    have hmem := hfound.mpr (.inr hhides)
    rw [htext] at hmem
    exact absurd hmem (by decide)
  unfold optionalText
  split
  · unfold AdmitsNone
    rw [houter]
    tauto
  · rename_i hunmarked
    rw [not_or, not_or] at hunmarked
    refine iff_of_true (.inr (.inr ?_)) ?_
    · rw [outerAlternatives_none h]
      exact List.mem_concat_self
    · tauto

/-- It has one more `None` outside of brackets than before, if there was none. -/
theorem outerAlternatives_optionalText {t : DataType} (h : HasUnmarkedNames t) :
    outerAlternatives (optionalText (typeText t)) = outerAlternatives (typeText t) ∨
      "None".toList ∉ outerAlternatives (typeText t) ∧
        outerAlternatives (optionalText (typeText t)) = outerAlternatives (typeText t) ++ ["None".toList] := by
  unfold optionalText
  split
  · exact .inl rfl
  · rename_i hunmarked
    rw [not_or, not_or] at hunmarked
    refine .inr ⟨fun hmem => ?_, outerAlternatives_none h⟩
    rw [none_mem_outerAlternatives_iff h] at hmem
    exact hunmarked.2.2 ((none_mem_alternatives_iff h).mpr (.inl hmem))

end Python

end ServiceStubs
