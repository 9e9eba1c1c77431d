import Mathlib.Logic.Relation
import ServiceStubs.Proofs.Target.Identifiers

/-!
# Words for the names of a scope

An identifier that is taken already, or reserved, gets one underscore after the other until it is free. The used
identifiers are finitely many and every turn leaves one more of them behind as too short, so that this comes to an end
whatever is used. What comes out is made of the characters of identifiers, since a name is put into such characters
first.

* `Lengthens` is one turn, and `lengthens_wellFounded` says that there is no endless row of turns;
* `endsAt_freshIdent` says that `freshIdent` gives the identifier at which the turns end;
* `isWord_sanitized` and `sanitized_eq_self_iff` say what a name becomes in identifier characters;
* `safeIdents_words` says all this of the names of a scope, which get different words.
-/

namespace ServiceStubs

/-! ## Turns -/

/-- One turn: an identifier that is used gets an underscore. -/
inductive Lengthens (used : List String) : String → String → Prop where
  | turn {ident : String} (h : ident ∈ used) : Lengthens used ident (ident ++ "_")

/-- The used identifiers that are at least as long as an identifier. -/
def notShorter (used : List String) (ident : String) : List String :=
  used.filter fun u => ident.toList.length ≤ u.toList.length

/-- A turn leaves the identifier behind, and whatever is not longer. -/
theorem length_notShorter_lt {used : List String} {ident : String} (h : ident ∈ used) :
    (notShorter used (ident ++ "_")).length < (notShorter used ident).length := by
  have hlength : (ident ++ "_").toList.length = ident.toList.length + 1 := by simp
  have hsublist : (notShorter used (ident ++ "_")).Sublist (notShorter used ident) := by
    refine List.monotone_filter_right used fun u hu => ?_
    rw [decide_eq_true_eq] at hu ⊢
    omega
  -- If nothing were left behind, the identifier itself would be as long as its successor.
  refine Nat.lt_of_le_of_ne hsublist.length_le fun heq => ?_
  have hmem : ident ∈ notShorter used ident := List.mem_filter.mpr ⟨h, by simp⟩
  rw [← hsublist.eq_of_length heq] at hmem
  have hle := of_decide_eq_true (List.mem_filter.mp hmem).2
  omega

/-- There is no endless row of turns. -/
theorem lengthens_wellFounded (used : List String) : WellFounded (Function.swap (Lengthens used)) := by
  refine Subrelation.wf ?_ (measure fun ident => (notShorter used ident).length).wf
  rintro longer ident ⟨h⟩
  exact length_notShorter_lt h

/-- The turns that begin with an identifier come to an end, whatever is done, and they end with `last`, which is
free. -/
structure EndsAt (used : List String) (ident last : String) : Prop where
  ends : Acc (Function.swap (Lengthens used)) ident
  reached : Relation.ReflTransGen (Lengthens used) ident last
  free : last ∉ used

theorem reached_underscored {used : List String} {ident : String} {n : Nat}
    (h : ∀ i < n, underscored ident i ∈ used) :
    Relation.ReflTransGen (Lengthens used) ident (underscored ident n) := by
  induction n with
  | zero => rw [underscored_zero]
  | succ n ih =>
    rw [← underscored_add]
    exact (ih fun i hi => h i (Nat.lt_succ_of_lt hi)).tail (.turn (h n (Nat.lt_succ_self n)))

/-- The bound on the number of underscores is never in the way. -/
theorem endsAt_freshIdent (used : List String) (ident : String) : EndsAt used ident (freshIdent used ident) := by
  obtain ⟨n, heq, hbefore, hfree⟩ := freshIdent_spec used ident
  rw [heq]
  exact ⟨(lengthens_wellFounded used).apply ident, reached_underscored hbefore, hfree⟩

/-! ## Words -/

/-- A word that can be an identifier: letters, numbers and underscores, and no digit in front. -/
structure IsWord (s : String) : Prop where
  nonempty : s ≠ ""
  wordChars : ∀ c ∈ s.toList, Text.isWordChar c
  initial : ∀ c ∈ s.toList.head?, ¬c.isDigit

theorem IsWord.underscored {s : String} (h : IsWord s) (n : Nat) : IsWord (underscored s n) := by
  obtain ⟨c, rest, hs⟩ := List.exists_cons_of_ne_nil (mt String.toList_eq_nil_iff.mp h.nonempty)
  have hinitial := h.initial
  rw [hs] at hinitial
  refine ⟨?_, ?_, ?_⟩
  · rw [Ne, ← String.toList_eq_nil_iff, toList_underscored, hs]
    simp
  · intro d hd
    rw [toList_underscored, List.mem_append, List.mem_replicate] at hd
    rcases hd with hd | ⟨-, rfl⟩
    · exact h.wordChars d hd
    · decide
  · rw [toList_underscored, hs]
    exact hinitial

theorem isWordChar_of_mem_wordChars {name : List Char} {c : Char} (h : c ∈ wordChars name) : Text.isWordChar c := by
  obtain ⟨d, -, rfl⟩ := List.mem_map.mp h
  split
  · assumption
  · decide

theorem isWord_ofList {c : Char} {rest : List Char} (hchars : ∀ d ∈ c :: rest, Text.isWordChar d)
    (hdigit : ¬c.isDigit) : IsWord (String.ofList (c :: rest)) := by
  refine ⟨?_, ?_, ?_⟩
  · rw [Ne, ← String.toList_eq_nil_iff, String.toList_ofList]
    simp
  · rwa [String.toList_ofList]
  · rw [String.toList_ofList]
    intro d hd
    cases hd
    exact hdigit

/-- A name becomes a word. -/
theorem isWord_sanitized (name : String) : IsWord (sanitized name) := by
  unfold sanitized
  split
  · exact isWord_ofList (List.forall_mem_singleton.mpr (by decide)) (by decide)
  · rename_i c rest hname
    have hchars : ∀ d ∈ c :: rest, Text.isWordChar d := fun d hd => isWordChar_of_mem_wordChars (hname ▸ hd)
    split
    · exact isWord_ofList (List.forall_mem_cons.mpr ⟨by decide, hchars⟩) (by decide)
    · rename_i hdigit
      exact isWord_ofList hchars hdigit

/-- And a word stays as it is. -/
theorem sanitized_eq_self_iff {name : String} : sanitized name = name ↔ IsWord name := by
  constructor
  · intro h
    rw [← h]
    exact isWord_sanitized name
  · rintro ⟨hne, hchars, hinitial⟩
    have hword : wordChars name.toList = name.toList :=
      (List.map_congr_left fun c hc => if_pos (hchars c hc)).trans (List.map_id' _)
    obtain ⟨c, rest, hname⟩ := List.exists_cons_of_ne_nil (mt String.toList_eq_nil_iff.mp hne)
    rw [hname] at hinitial
    unfold sanitized
    rw [hword, hname]
    dsimp only
    rw [if_neg (hinitial c rfl), ← hname, String.ofList_toList]

/-! ## Scopes -/

/-- Every list of different names, and all reserved words. Adding underscores comes to an end, whatever is used. Each
name gets a word that is not reserved, no two get the same one, and a word that is not reserved is kept; what a name
gets is its form in identifier characters, with underscores behind it. -/
theorem safeIdents_words (reserved : List String) {names : List String} (h : names.Nodup) :
    (∀ used ident, EndsAt used ident (freshIdent used ident)) ∧
      (safeIdents reserved names).Nodup ∧
      List.Forall₂ (fun name ident => IsWord ident ∧ ident ∉ reserved ∧
          (IsWord name → name ∉ reserved → ident = name) ∧ ∃ n, ident = underscored (sanitized name) n)
        names (safeIdents reserved names) := by
  refine ⟨endsAt_freshIdent, nodup_safeIdents h, (safeIdents_forall₂ reserved names).imp ?_⟩
  rintro name ident ⟨hreserved, ⟨n, rfl⟩, hkept⟩
  refine ⟨(isWord_sanitized name).underscored n, hreserved, ?_, n, rfl⟩
  intro hword
  exact hkept (sanitized_eq_self_iff.mpr hword)

/-- A reserved word whose next form is a name of the scope, which keeps its spelling, names that meet in identifier
characters, and a name that begins with a digit. -/
theorem safeIdents_words_crowded :
    ["from", "from_", "a-b", "a b", "1st", ""].Nodup ∧
      (safeIdents ["from", "a_b_"] ["from", "from_", "a-b", "a b", "1st", ""]).Nodup ∧
      safeIdents ["from", "a_b_"] ["from", "from_", "a-b", "a b", "1st", ""] =
        ["from__", "from_", "a_b", "a_b__", "_1st", "_"] := by
  have hdistinct : ["from", "from_", "a-b", "a b", "1st", ""].Nodup := by decide
  obtain ⟨-, hnodup, -⟩ := safeIdents_words ["from", "a_b_"] hdistinct
  exact ⟨hdistinct, hnodup, by decide⟩

end ServiceStubs
