import Mathlib.Data.List.Forall2
import Mathlib.Data.List.Nodup
import Mathlib.Data.List.Perm.Subperm
import ServiceStubs.Target.Naming

/-!
# Identifiers of a scope

Every name of a scope becomes an identifier: the name in identifier characters, with as few underscores behind
it as it takes to be no reserved word and no other identifier of the scope. Names that need no change keep
their spelling whatever stands beside them.

* `freshIdent_spec` says that an identifier is extended until it is free, and no further;
* `safeIdents_forall₂` says what becomes of each name;
* `nodup_safeIdents` says that different names become different identifiers;
* `mem_safeIdents_iff` says when a word without underscores is among the identifiers.
-/

namespace ServiceStubs

variable {reserved taken : List String}

/-! ## Underscores behind an identifier -/

/-- An identifier with `n` underscores behind it. -/
def underscored (ident : String) (n : Nat) : String :=
  ident ++ String.ofList (List.replicate n '_')

@[simp] theorem toList_underscored (ident : String) (n : Nat) :
    (underscored ident n).toList = ident.toList ++ List.replicate n '_' := by
  simp [underscored]

@[simp] theorem underscored_zero (ident : String) : underscored ident 0 = ident := by
  apply String.toList_injective
  simp

theorem underscored_add (ident : String) (n k : Nat) :
    underscored (underscored ident n) k = underscored ident (n + k) := by
  apply String.toList_injective
  rw [toList_underscored, toList_underscored, toList_underscored, List.append_assoc,
    List.replicate_append_replicate]

theorem append_underscore (ident : String) : ident ++ "_" = underscored ident 1 := rfl

theorem underscored_injective (ident : String) : Function.Injective (underscored ident) := by
  intro n k h
  have hlength := congrArg (fun s => s.toList.length) h
  simp only [toList_underscored, List.length_append, List.length_replicate] at hlength
  omega

/-! ## Free identifiers -/

/-- All shorter forms of the answer are used; and the answer is not, unless all tries are. -/
theorem extendUntilFree_spec (used : List String) (tries : Nat) (ident : String) :
    ∃ n, extendUntilFree used tries ident = underscored ident n ∧ n ≤ tries ∧
      (∀ i < n, underscored ident i ∈ used) ∧ (underscored ident n ∈ used → n = tries) := by
  induction tries generalizing ident with
  | zero => exact ⟨0, by simp [extendUntilFree], Nat.le_refl 0, by simp, fun _ => rfl⟩
  | succ tries ih =>
    unfold extendUntilFree
    by_cases hused : ident ∈ used
    · rw [if_pos hused]
      obtain ⟨n, heq, hle, hbefore, hlast⟩ := ih (ident ++ "_")
      -- One underscore more in front of the recursion is one more behind it.
      have hshift : ∀ i, underscored (ident ++ "_") i = underscored ident (i + 1) := by
        intro i
        rw [append_underscore, underscored_add, Nat.add_comm]
      rw [hshift] at heq hlast
      refine ⟨n + 1, heq, by omega, ?_, ?_⟩
      · intro i hi
        cases i with
        | zero => simpa using hused
        | succ i =>
          rw [← hshift]
          exact hbefore i (by omega)
      · intro hmem
        have := hlast hmem
        omega
    · rw [if_neg hused]
      refine ⟨0, by simp, by omega, by simp, ?_⟩
      intro hmem
      rw [underscored_zero] at hmem
      exact absurd hmem hused

/-- An identifier gets the fewest underscores that keep it clear of the used ones. There are more forms than
used identifiers, so that one of them is free. -/
theorem freshIdent_spec (used : List String) (ident : String) :
    ∃ n, freshIdent used ident = underscored ident n ∧ (∀ i < n, underscored ident i ∈ used) ∧
      underscored ident n ∉ used := by
  obtain ⟨n, heq, -, hbefore, hlast⟩ := extendUntilFree_spec used used.length ident
  refine ⟨n, heq, hbefore, ?_⟩
  intro hmem
  have hn : n = used.length := hlast hmem
  -- Otherwise all forms up to the last one are used, one more than there are used identifiers.
  have hforms : ((List.range (n + 1)).map (underscored ident)) ⊆ used := by
    intro form hform
    obtain ⟨i, hi, rfl⟩ := List.mem_map.mp hform
    have hi : i < n + 1 := List.mem_range.mp hi
    rcases Nat.lt_or_eq_of_le (Nat.lt_succ_iff.mp hi) with hlt | rfl
    · exact hbefore i hlt
    · exact hmem
  have hnodup : ((List.range (n + 1)).map (underscored ident)).Nodup :=
    List.Nodup.map (underscored_injective ident) List.nodup_range
  have hlength := (List.subperm_of_subset hnodup hforms).length_le
  rw [List.length_map, List.length_range] at hlength
  omega

/-! ## One name -/

/-- Making identifier characters of a name never shortens it. -/
theorem length_le_sanitized (name : String) : name.toList.length ≤ (sanitized name).toList.length := by
  have hlength : (wordChars name.toList).length = name.toList.length := List.length_map _
  unfold sanitized
  split
  · rename_i hnil
    rw [hnil] at hlength
    rw [← hlength]
    exact Nat.zero_le _
  · rename_i c rest hcons
    rw [hcons] at hlength
    rw [← hlength, String.toList_ofList]
    split
    · rw [List.length_cons (a := '_')]
      omega
    · exact Nat.le_refl _

/-- The identifier of a single name is the name in identifier characters, or has one underscore more. -/
theorem safeIdent_eq_underscored (reserved : List String) (name : String) :
    ∃ n, safeIdent reserved name = underscored (sanitized name) n := by
  unfold safeIdent
  split
  · exact ⟨1, rfl⟩
  · exact ⟨0, (underscored_zero _).symm⟩

/-- A name is its own identifier if it is written in identifier characters and not reserved. -/
theorem safeIdent_eq_self_iff {name : String} :
    safeIdent reserved name = name ↔ sanitized name = name ∧ name ∉ reserved := by
  unfold safeIdent
  split
  · rename_i hreserved
    constructor
    · -- A word that gets an underscore behind it is longer than the name.
      intro heq
      have hlength := congrArg (fun s => s.toList.length) heq
      have hle := length_le_sanitized name
      simp only [append_underscore, toList_underscored, List.length_append, List.length_replicate] at hlength
      omega
    · rintro ⟨heq, hnot⟩
      rw [heq] at hreserved
      exact absurd hreserved hnot
  · rename_i hnot
    constructor
    · intro heq
      exact ⟨heq, heq ▸ hnot⟩
    · intro h
      exact h.1

/-- A word without underscores is the identifier of its own name only. -/
theorem eq_of_sanitized_eq {name x : String} (hx : '_' ∉ x.toList) (h : sanitized name = x) : name = x := by
  subst h
  unfold sanitized at hx ⊢
  split at hx
  · exact absurd (by decide) hx
  · rename_i c rest hcons
    rw [String.toList_ofList] at hx
    split at hx
    · exact absurd List.mem_cons_self hx
    · rename_i hdigit
      rw [← hcons] at hx
      have hword : wordChars name.toList = name.toList := by
        unfold wordChars at hx ⊢
        refine (List.map_congr_left ?_).trans (List.map_id' _)
        intro d hd
        split
        · rfl
        · rename_i hnot
          -- A character that is replaced leaves an underscore.
          exact absurd (List.mem_map.mpr ⟨d, hd, by rw [if_neg hnot]⟩) hx
      rw [if_neg hdigit, ← hcons, hword, String.ofList_toList]

/-! ## All names of a scope -/

/-- Each name either is its own identifier, or gets a form of its identifier that is neither taken nor
reserved. -/
theorem settleIdents_forall₂ (reserved taken : List String) (pairs : List (String × String)) :
    List.Forall₂ (fun p ident => (p.1 = p.2 ∧ ident = p.1) ∨
        (p.1 ≠ p.2 ∧ (∃ n, ident = underscored p.1 n) ∧ ident ∉ taken ∧ ident ∉ reserved))
      pairs (settleIdents reserved taken pairs) := by
  induction pairs generalizing taken with
  | nil => exact .nil
  | cons p rest ih =>
    obtain ⟨ident, name⟩ := p
    unfold settleIdents
    by_cases hkept : ident = name
    · rw [if_pos hkept]
      exact .cons (.inl ⟨hkept, rfl⟩) (ih taken)
    · rw [if_neg hkept]
      obtain ⟨n, heq, -, hfree⟩ := freshIdent_spec (taken ++ reserved) ident
      rw [← heq, List.mem_append, not_or] at hfree
      refine .cons (.inr ⟨hkept, ⟨n, heq⟩, hfree⟩) ?_
      refine (ih (freshIdent (taken ++ reserved) ident :: taken)).imp ?_
      rintro p ident' (h | ⟨hne, hform, htaken, hreserved⟩)
      · exact .inl h
      · exact .inr ⟨hne, hform, fun hmem => htaken (List.mem_cons_of_mem _ hmem), hreserved⟩

theorem exists_of_mem_forall₂ {α β : Type} {R : α → β → Prop} {xs : List α} {ys : List β}
    (h : List.Forall₂ R xs ys) {y : β} (hy : y ∈ ys) : ∃ x ∈ xs, R x y := by
  induction h with
  | nil => cases hy
  | cons hxy _ ih =>
    rcases List.mem_cons.mp hy with rfl | hy
    · exact ⟨_, List.mem_cons_self, hxy⟩
    · obtain ⟨x, hx, hR⟩ := ih hy
      exact ⟨x, List.mem_cons_of_mem _ hx, hR⟩

/-- Identifiers are settled from left to right, and each is taken for those that follow. -/
theorem nodup_settleIdents {pairs : List (String × String)} (hkept : ∀ p ∈ pairs, p.1 = p.2 → p.1 ∈ taken)
    (hdistinct : (pairs.map Prod.snd).Nodup) : (settleIdents reserved taken pairs).Nodup := by
  induction pairs generalizing taken with
  | nil => exact List.nodup_nil
  | cons p rest ih =>
    obtain ⟨ident, name⟩ := p
    rw [List.map_cons, List.nodup_cons] at hdistinct
    obtain ⟨hname, hdistinct⟩ := hdistinct
    have hrest : ∀ p ∈ rest, p.1 = p.2 → p.1 ∈ taken := fun p hp => hkept p (List.mem_cons_of_mem _ hp)
    unfold settleIdents
    by_cases heq : ident = name
    · rw [if_pos heq, List.nodup_cons]
      refine ⟨?_, ih hrest hdistinct⟩
      intro hmem
      obtain ⟨p, hp, hcase⟩ := exists_of_mem_forall₂ (settleIdents_forall₂ reserved taken rest) hmem
      rcases hcase with ⟨hself, hident⟩ | ⟨-, -, htaken, -⟩
      · -- Two names that are their own identifiers are different.
        have hsnd : p.2 = name := by rw [← hself, ← hident, heq]
        exact hname (List.mem_map.mpr ⟨p, hp, hsnd⟩)
      · exact htaken (hkept (ident, name) List.mem_cons_self heq)
    · rw [if_neg heq, List.nodup_cons]
      obtain ⟨n, hform, -, hfree⟩ := freshIdent_spec (taken ++ reserved) ident
      rw [← hform, List.mem_append, not_or] at hfree
      refine ⟨?_, ih (fun p hp hself => List.mem_cons_of_mem _ (hrest p hp hself)) hdistinct⟩
      intro hmem
      obtain ⟨p, hp, hcase⟩ := exists_of_mem_forall₂ (settleIdents_forall₂ reserved _ rest) hmem
      rcases hcase with ⟨hself, hident⟩ | ⟨-, -, htaken, -⟩
      · exact hfree.1 (hident ▸ hrest p hp hself)
      · exact htaken List.mem_cons_self

/-- What becomes of each name: its form in identifier characters with underscores behind it, which is no
reserved word; a name that needs no change is not changed. -/
theorem safeIdents_forall₂ (reserved names : List String) :
    List.Forall₂ (fun name ident => ident ∉ reserved ∧ (∃ n, ident = underscored (sanitized name) n) ∧
        (sanitized name = name → name ∉ reserved → ident = name))
      names (safeIdents reserved names) := by
  have hpairs := settleIdents_forall₂ reserved
    (((names.map fun name => (safeIdent reserved name, name)).filter fun p => p.1 == p.2).map (·.1))
    (names.map fun name => (safeIdent reserved name, name))
  rw [List.forall₂_map_left_iff] at hpairs
  refine hpairs.imp ?_
  rintro name ident (⟨hself, rfl⟩ | ⟨hne, ⟨n, rfl⟩, -, hreserved⟩)
  · obtain ⟨hword, hnot⟩ := safeIdent_eq_self_iff.mp hself
    have hself : safeIdent reserved name = name := hself
    dsimp only
    rw [hself]
    exact ⟨hnot, ⟨0, by rw [hword, underscored_zero]⟩, fun _ _ => rfl⟩
  · obtain ⟨k, hform⟩ := safeIdent_eq_underscored reserved name
    refine ⟨hreserved, ⟨k + n, by rw [hform, underscored_add]⟩, ?_⟩
    intro hword hnot
    exact absurd (safeIdent_eq_self_iff.mpr ⟨hword, hnot⟩) hne

theorem nodup_safeIdents {names : List String} (h : names.Nodup) : (safeIdents reserved names).Nodup := by
  unfold safeIdents
  apply nodup_settleIdents
  · intro p hp hself
    refine List.mem_map.mpr ⟨p, List.mem_filter.mpr ⟨hp, ?_⟩, rfl⟩
    simpa using hself
  · rw [List.map_map]
    simpa [Function.comp_def] using h

theorem length_safeIdents (reserved names : List String) : (safeIdents reserved names).length = names.length :=
  (safeIdents_forall₂ reserved names).length_eq.symm

theorem mem_safeIdents_of_mem {names : List String} {x : String} (hx : x ∈ names) (hword : sanitized x = x)
    (hnot : x ∉ reserved) : x ∈ safeIdents reserved names := by
  obtain ⟨ident, hident, -, -, hself⟩ :=
    exists_of_mem_forall₂ (safeIdents_forall₂ reserved names).flip hx
  rwa [← hself hword hnot]

/-- A word without underscores is an identifier of the scope only where it is a name of the scope, since other
names are changed to words with underscores. -/
theorem mem_safeIdents_iff {names : List String} {x : String} (hx : '_' ∉ x.toList) :
    x ∈ safeIdents reserved names ↔ x ∈ names ∧ sanitized x = x ∧ x ∉ reserved := by
  constructor
  · intro hmem
    obtain ⟨name, hname, hnot, ⟨n, hform⟩, -⟩ := exists_of_mem_forall₂ (safeIdents_forall₂ reserved names) hmem
    have hn : n = 0 := by
      by_contra hpos
      apply hx
      rw [hform, toList_underscored, List.mem_append, List.mem_replicate]
      exact .inr ⟨hpos, rfl⟩
    rw [hn, underscored_zero] at hform
    obtain rfl := eq_of_sanitized_eq hx hform.symm
    exact ⟨hname, hform.symm, hnot⟩
  · rintro ⟨hname, hword, hnot⟩
    exact mem_safeIdents_of_mem hname hword hnot

end ServiceStubs
