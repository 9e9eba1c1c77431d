import ServiceStubs.Proofs.Target.PythonUnions
import ServiceStubs.Proofs.Text.Occurrence
import ServiceStubs.Target.Dart
import ServiceStubs.Target.Go
import ServiceStubs.Target.Kotlin
import ServiceStubs.Target.Swift

/-!
# Optional types

A type that is optional is spelled so that it admits the null of the target as well: with a question mark behind it, as
a pointer, or with `None` as one more alternative. Whether a type does already is seen from its spelling.

* `MarkedOnce` says that a question mark is put behind a spelling where it should be;
* `not_contains_typeText` is about the spellings of Dart, Kotlin and Swift, and `not_startsWith_typeText` about Go;
* `optional_iff` says which types admit null once they are marked as optional, in each of the targets.
-/

namespace ServiceStubs

open Text (IsFront IsTail)

/-! ## Question marks -/

/-- Behind a spelling that is marked as nullable there is one question mark, unless it is one of `top`. -/
structure MarkedOnce (top : List String) (text : String) : Prop where
  nullable : Text.endsWith (nullableText top text) "?" ∨ nullableText top text ∈ top
  before : ¬Text.contains text "??"
  behind : ¬Text.contains (nullableText top text) "??"

theorem endsWith_append_self (text back : String) : Text.endsWith (text ++ back) back := by
  unfold Text.endsWith
  rw [List.isSuffixOf_iff_suffix, String.toList_append]
  exact List.suffix_append _ _

/-- A question mark is not put behind another one. -/
theorem not_contains_nullableText (top : List String) {text : String} (h : ¬Text.contains text "??") :
    ¬Text.contains (nullableText top text) "??" := by
  unfold nullableText
  split
  · exact h
  · rename_i hbare
    rw [not_or] at hbare
    unfold Text.contains at h ⊢
    rw [String.toList_append]
    refine fun hmarks => ?_
    rcases (Text.occursIn_pair_append _ _).mp hmarks with htext | hmark | ⟨hlast, -⟩
    · exact h htext
    · exact absurd hmark (by decide)
    · -- A question mark at the end would have been seen.
      obtain ⟨front, hfront⟩ := List.getLast?_eq_some_iff.mp hlast
      refine hbare.1 ?_
      unfold Text.endsWith
      rw [List.isSuffixOf_iff_suffix, hfront]
      exact List.suffix_append _ _

theorem markedOnce (top : List String) {text : String} (h : ¬Text.contains text "??") : MarkedOnce top text where
  nullable := by
    unfold nullableText
    split
    · assumption
    · exact .inl (endsWith_append_self text "?")
  before := h
  behind := not_contains_nullableText top h

theorem not_contains_of_not_mem {text : String} (h : '?' ∉ text.toList) : ¬Text.contains text "??" := by
  intro hmarks
  obtain ⟨front, back, heq⟩ := (Text.occursIn_pair_iff_exists (a := '?') (b := '?') text.toList).mp hmarks
  exact h (by simp [heq])

/-- What a spelling is enclosed in has no question marks. -/
theorem not_contains_enclosed {front back text : String} (hfront : '?' ∉ front.toList) (hback : '?' ∉ back.toList)
    (h : ¬Text.contains text "??") : ¬Text.contains (front ++ text ++ back) "??" := by
  have hstart : IsFront '?' '?' front.toList :=
    ⟨not_contains_of_not_mem hfront, fun hlast => hfront (List.mem_of_getLast? hlast)⟩
  have hend : IsTail '?' '?' back.toList :=
    ⟨not_contains_of_not_mem hback, fun hhead => hback (List.mem_of_head? hhead)⟩
  unfold Text.contains at h ⊢
  rw [String.toList_append, String.toList_append]
  exact fun hmarks => h ((Text.occursIn_pair_enclosed hstart hend _).mp hmarks)

namespace Dart

theorem not_contains_typeText {t : DataType} (h : HasUnmarkedNames t) :
    ¬Text.contains (typeText t) "??" := by
  fun_induction typeText t with
  | case10 item ih => exact not_contains_enclosed (by decide) (by decide) (ih h.item)
  | case11 key value ih =>
    have hkey : '?' ∉ ("Map<" ++ keyText key ++ ", ").toList := by
      cases key <;> simp [keyText]
    exact not_contains_enclosed hkey (by decide) (ih h.value)
  | case12 result ih => exact not_contains_enclosed (by decide) (by decide) (ih h.result)
  | case13 members inner hinner ih =>
    exact not_contains_nullableText topTypes (ih (h.member (mem_of_nullableInner? hinner)))
  | case15 ref => exact not_contains_of_not_mem (h.name.not_mem (by decide))
  | _ => decide

end Dart

namespace Kotlin

theorem not_contains_typeText {t : DataType} (h : HasUnmarkedNames t) :
    ¬Text.contains (typeText t) "??" := by
  fun_induction typeText t with
  | case10 item ih => exact not_contains_enclosed (by decide) (by decide) (ih h.item)
  | case11 key value ih =>
    have hkey : '?' ∉ ("Map<" ++ keyText key ++ ", ").toList := by
      cases key <;> simp [keyText]
    exact not_contains_enclosed hkey (by decide) (ih h.value)
  | case12 result ih => exact ih h.result
  | case13 members inner hinner ih =>
    exact not_contains_nullableText topTypes (ih (h.member (mem_of_nullableInner? hinner)))
  | case15 ref => exact not_contains_of_not_mem (h.name.not_mem (by decide))
  | _ => decide

end Kotlin

namespace Swift

theorem not_contains_typeText {t : DataType} (h : HasUnmarkedNames t) :
    ¬Text.contains (typeText t) "??" := by
  fun_induction typeText t with
  | case10 item ih => exact not_contains_enclosed (by decide) (by decide) (ih h.item)
  | case11 key value ih =>
    have hkey : '?' ∉ ("[" ++ keyText key ++ ": ").toList := by
      cases key <;> simp [keyText]
    exact not_contains_enclosed hkey (by decide) (ih h.value)
  | case12 result ih => exact ih h.result
  | case13 members inner hinner ih =>
    exact not_contains_nullableText topTypes (ih (h.member (mem_of_nullableInner? hinner)))
  | case15 ref => exact not_contains_of_not_mem (h.name.not_mem (by decide))
  | _ => decide

end Swift

namespace Go

/-- A spelling of a pointer, a slice, a map or `any`. -/
def IsNilable (text : String) : Prop :=
  text = "any" ∨ Text.startsWith text "*" ∨ Text.startsWith text "[]" ∨ Text.startsWith text "map["

theorem isNilable_pointer (text : String) : IsNilable (pointer text) := by
  unfold pointer
  split
  · assumption
  · refine .inr (.inl ?_)
    unfold Text.startsWith
    rw [List.isPrefixOf_iff_prefix, String.toList_append]
    exact List.prefix_append _ _

/-- No pointer is made of a pointer. -/
theorem not_startsWith_pointer {text : String} (h : ¬Text.startsWith text "**") :
    ¬Text.startsWith (pointer text) "**" := by
  unfold pointer
  split
  · exact h
  · rename_i hplain
    rw [not_or, not_or] at hplain
    have hstar := hplain.2.1
    unfold Text.startsWith at hstar ⊢
    rw [List.isPrefixOf_iff_prefix] at hstar ⊢
    rw [String.toList_append]
    exact fun hprefix => hstar (List.cons_prefix_cons.mp hprefix).2

theorem not_startsWith_typeText {t : DataType} (h : HasUnmarkedNames t) :
    ¬Text.startsWith (typeText t) "**" := by
  fun_induction typeText t with
  | case10 item ih => simp [Text.startsWith]
  | case11 key value ih => simp [Text.startsWith]
  | case12 result ih => exact ih h.result
  | case13 members inner hinner ih =>
    exact not_startsWith_pointer (ih (h.member (mem_of_nullableInner? hinner)))
  | case15 ref =>
    unfold Text.startsWith
    rw [List.isPrefixOf_iff_prefix]
    exact fun hstart => h.name.not_mem (by decide) (hstart.subset List.mem_cons_self)
  | _ => decide

end Go

/-! ## All targets -/

/-- A type that is marked as optional admits null, and is marked only once: in Dart, Kotlin, Swift and Go always, and in
Python unless it has been left as it is for a `None` among the items or values in it. -/
theorem optional_iff {t : DataType} (h : HasUnmarkedNames t) :
    (Python.AdmitsNone (Python.optionalText (Python.typeText t)) ↔
        "None" ∈ Python.alternativeTexts t ∨ ¬Python.HidesNone t) ∧
      (Python.outerAlternatives (Python.optionalText (Python.typeText t)) =
          Python.outerAlternatives (Python.typeText t) ∨
        "None".toList ∉ Python.outerAlternatives (Python.typeText t) ∧
          Python.outerAlternatives (Python.optionalText (Python.typeText t)) =
            Python.outerAlternatives (Python.typeText t) ++ ["None".toList]) ∧
      MarkedOnce Dart.topTypes (Dart.typeText t) ∧
      MarkedOnce Kotlin.topTypes (Kotlin.typeText t) ∧
      MarkedOnce Swift.topTypes (Swift.typeText t) ∧
      Go.IsNilable (Go.pointer (Go.typeText t)) ∧ ¬Text.startsWith (Go.pointer (Go.typeText t)) "**" :=
  ⟨Python.admitsNone_optionalText_iff h, Python.outerAlternatives_optionalText h,
    markedOnce _ (Dart.not_contains_typeText h), markedOnce _ (Kotlin.not_contains_typeText h),
    markedOnce _ (Swift.not_contains_typeText h), Go.isNilable_pointer _,
    Go.not_startsWith_pointer (Go.not_startsWith_typeText h)⟩

/-- Lists of records that may be missing, or of nothing. -/
def gaps : DataType :=
  .array (.union [.named ⟨"Item_1$", "s", .record⟩, .null])

theorem optional_gaps :
    HasUnmarkedNames gaps ∧
      Python.AdmitsNone (Python.optionalText (Python.typeText gaps)) ∧
      MarkedOnce Dart.topTypes (Dart.typeText gaps) ∧ ¬Text.startsWith (Go.pointer (Go.typeText gaps)) "**" := by
  have hnames : HasUnmarkedNames gaps := by
    unfold HasUnmarkedNames
    simp only [gaps, DataType.references, List.flatMap_cons, List.flatMap_nil, List.append_nil,
      List.forall_mem_singleton]
    decide
  have hhides : ¬Python.HidesNone gaps := by
    have hends : ¬Python.NoneAmong False False (["Item_1$"] ++ ["None"]) := by
      rw [Python.noneAmong_append (by simp) (by simp), Python.noneAmong_singleton, Python.noneAmong_singleton]
      decide
    simpa [gaps, Python.HidesNone, Python.contentsOf, Python.alternativeTexts, Python.alternativesOf, Python.typeText]
      using hends
  obtain ⟨hpython, -, hdart, -, -, -, hgo⟩ := optional_iff hnames
  exact ⟨hnames, hpython.mpr (.inr hhides), hdart, hgo⟩

/-- Lists with nothing between the other alternatives for their items. -/
def readings : DataType :=
  .array (.union [.string, .null, .double])

/-- They are not marked in Python, but do not admit `None` themselves. -/
theorem not_admitsNone_readings :
    HasUnmarkedNames readings ∧
      ¬Python.AdmitsNone (Python.optionalText (Python.typeText readings)) := by
  have htext : Python.typeText readings = "list[str | None | float]" := by
    simp [readings, Python.typeText, String.intercalate_cons_cons]
  refine ⟨by simp [HasUnmarkedNames, readings, DataType.references], ?_⟩
  rw [htext]
  decide

end ServiceStubs
