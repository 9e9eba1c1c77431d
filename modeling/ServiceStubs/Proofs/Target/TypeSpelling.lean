import ServiceStubs.Proofs.Target.NormalTypes
import ServiceStubs.Proofs.Text.Quoted

/-!
# Spellings of types in TypeScript

The items of an array stand in front of its brackets, and the members of a union have a mark between them, so that only
what follows tells where a type ends. It is told all the same: a type can be read from its spelling from the left, up to
the differences that TypeScript does not make.

* `readSeparated_intercalate` reads what has a mark between its parts, be it members or fields;
* `readType` reads a type, and `isRead_word` and its companions say what it makes of each kind of spelling;
* `readType_typeText_normal` finds the normal form of a type in its spelling;
* `typeText_eq_iff` says which types have the same spelling.
-/

namespace ServiceStubs.TypeScript

/-! ## Parts of a spelling -/

/-- Parts with a mark between them, read one by one. The number bounds how many. -/
def readSeparated {α : Type} (readPart : List Char → α × List Char) (mark : List Char) :
    Nat → List Char → List α × List Char
  | 0, cs => ([], cs)
  | bound + 1, cs =>
    let (part, rest) := readPart cs
    if mark <+: rest then
      let (parts, rest) := readSeparated readPart mark bound (rest.drop mark.length)
      (part :: parts, rest)
    else ([part], rest)

/-- Parts are read as they are if each of them is, where the mark or the end follows. -/
theorem readSeparated_intercalate {α : Type} {readPart : List Char → α × List Char} {mark : String} {text : α → String}
    {Follows : List Char → Prop} (hmark : ∀ rest, Follows (mark.toList ++ rest)) {rest : List Char}
    (hrest : Follows rest) (hend : ¬mark.toList <+: rest) {parts : List α} {bound : Nat} (hbound : parts.length ≤ bound)
    (hne : parts ≠ [])
    (hpart : ∀ part ∈ parts, ∀ rest, Follows rest → readPart ((text part).toList ++ rest) = (part, rest)) :
    readSeparated readPart mark.toList bound ((mark.intercalate (parts.map text)).toList ++ rest) = (parts, rest) := by
  induction parts generalizing bound with
  | nil => exact absurd rfl hne
  | cons part parts ih =>
    rw [List.forall_mem_cons] at hpart
    cases bound with
    | zero => simp at hbound
    | succ bound =>
      cases parts with
      | nil =>
        -- The last part: what follows does not begin with the mark, so that the reader stops.
        rw [List.map_singleton, String.intercalate_singleton, readSeparated, hpart.1 rest hrest]
        simp only [if_neg hend]
      | cons next parts =>
        have hnext := ih (Nat.le_of_succ_le_succ hbound) (by simp) hpart.2
        rw [List.map_cons] at hnext
        rw [List.map_cons, List.map_cons, String.intercalate_cons_cons, String.toList_append, String.toList_append,
          List.append_assoc, List.append_assoc, readSeparated, hpart.1 _ (hmark _)]
        simp only [if_pos (List.prefix_append _ _), List.drop_left, hnext]

/-- The characters of plain names. -/
def isNameChar (c : Char) : Bool :=
  Text.isAlphanumeric c || c == '_' || c == '$'

/-- The plain name in front of a text. -/
def readWord (cs : List Char) : String × List Char :=
  (String.ofList (cs.takeWhile isNameChar), cs.dropWhile isNameChar)

/-- The name of a property, in quotation marks or not. -/
def readName : List Char → String × List Char
  | '"' :: cs =>
    let (inside, rest) := Text.insideQuotes cs
    (String.ofList (Text.unescaped inside), rest)
  | cs => readWord cs

theorem isNameChar_of_isPlainName {name : String} (h : isPlainName name) : ∀ c ∈ name.toList, isNameChar c := by
  unfold isPlainName at h
  split at h
  · cases h
  · next first rest heq =>
    rw [heq, List.forall_mem_cons]
    simp only [isNameChar, Text.isAlphanumeric, Bool.and_eq_true, Bool.or_eq_true, List.all_eq_true] at h ⊢
    exact ⟨h.1.imp_left (Or.imp_left .inl), h.2⟩

/-- A plain name is read as it is where no other character of a name follows. -/
theorem readWord_append {name : String} (h : isPlainName name) {rest : List Char}
    (hrest : ∀ c ∈ rest.head?, isNameChar c = false) : readWord (name.toList ++ rest) = (name, rest) := by
  have hname := isNameChar_of_isPlainName h
  have hstop : rest.takeWhile isNameChar = [] ∧ rest.dropWhile isNameChar = rest := by
    cases rest with
    | nil => exact ⟨rfl, rfl⟩
    | cons c rest => simp [hrest c rfl]
  unfold readWord
  rw [List.takeWhile_append_of_pos hname, List.dropWhile_append_of_pos hname, hstop.1, hstop.2, List.append_nil,
    String.ofList_toList]

theorem readWord_append_cons {name : String} (h : isPlainName name) {c : Char} (hc : isNameChar c = false)
    (rest : List Char) : readWord (name.toList ++ c :: rest) = (name, c :: rest) := by
  refine readWord_append h fun c' hc' => ?_
  cases hc'
  exact hc

theorem head_isNameChar_of_isPlainName {name : String} (h : isPlainName name) (rest : List Char) :
    ∃ c cs, name.toList ++ rest = c :: cs ∧ isNameChar c := by
  have hname := isNameChar_of_isPlainName h
  match heq : name.toList with
  | [] => simp [isPlainName, heq] at h
  | c :: cs => exact ⟨c, cs ++ rest, rfl, hname c (by simp [heq])⟩

/-- The name of a property is read as it is where no other character of a name follows. -/
theorem readName_propertyName (name : String) {c : Char} (hc : isNameChar c = false) (rest : List Char) :
    readName ((propertyName name).toList ++ c :: rest) = (name, c :: rest) := by
  unfold propertyName
  split
  · next hplain =>
    rw [readName, readWord_append_cons hplain hc]
    intro cs heq
    obtain ⟨first, cs', heq', hfirst⟩ := head_isNameChar_of_isPlainName hplain (c :: rest)
    obtain ⟨rfl, -⟩ := List.cons.inj (heq.symm.trans heq')
    exact absurd hfirst (by decide)
  · have hquoted : (Text.quote name false).toList ++ c :: rest =
        '"' :: (name.toList.flatMap Text.jsonEscape ++ '"' :: c :: rest) := by
      simp [Text.quote, Text.jsonQuoted]
    rw [hquoted, readName, Text.insideQuotes_flatMap_jsonEscape]
    simp only [Text.unescaped_flatMap_jsonEscape, String.ofList_toList]

/-! ## Reading a spelling -/

/-- The brackets behind the items of arrays. -/
def readBrackets (item : DataType) : List Char → DataType × List Char
  | '[' :: ']' :: rest => readBrackets (.array item) rest
  | rest => (item, rest)

/-- The type with these members. -/
def ofMembers : List DataType → DataType
  | [t] => t
  | members => .union members

/-- The mark behind the name of a property that is optional. -/
def readOptional : List Char → Bool × List Char
  | '?' :: rest => (true, rest)
  | rest => (false, rest)

section

variable (readType : List Char → DataType × List Char)

/-- A field of a record. -/
def readField (cs : List Char) : Field × List Char :=
  let (name, rest) := readName cs
  let (optional, rest) := readOptional rest
  let (type, rest) := readType (rest.drop 2)
  (⟨name, optional, type⟩, rest)

/-- A type that is written in words, with or without other types. -/
def readWords (cs : List Char) : DataType × List Char :=
  match readWord cs with
  | ("Record", '<' :: rest) =>
    let (key, rest) := readWord rest
    let (value, rest) := readType (rest.drop 2)
    (.map (ofWord key) value, rest.drop 1)
  | (_, '<' :: rest) =>
    let (result, rest) := readType rest
    (.promise result, rest.drop 1)
  | (word, rest) => (ofWord word, rest)

/-- A type up to the brackets of arrays. -/
def readStem (bound : Nat) : List Char → DataType × List Char
  | '(' :: cs =>
    let (type, rest) := readType cs
    (type, rest.drop 1)
  | '\x7b' :: '\x7d' :: rest => (.record [], rest)
  | '\x7b' :: cs =>
    let (fields, rest) := readSeparated (readField readType) "; ".toList bound (cs.drop 1)
    (.record fields, rest.drop 2)
  | cs => readWords readType cs

end

/-- A type whose members are read one by one. -/
def readUnion (readMember : List Char → DataType × List Char) (bound : Nat) (cs : List Char) :
    DataType × List Char :=
  let (members, rest) := readSeparated readMember " | ".toList bound cs
  (ofMembers members, rest)

/-- The type that a text begins with the spelling of, if it is no union. The bound is on how deep types are put
together, and on how many stand side by side. -/
def readMember : Nat → List Char → DataType × List Char
  | 0, cs => (.any, cs)
  | bound + 1, cs =>
    let (stem, rest) := readStem (readUnion (readMember bound) bound) bound cs
    readBrackets stem rest

/-- The type that a text begins with the spelling of. -/
def readType (bound : Nat) : List Char → DataType × List Char :=
  readUnion (readMember bound) bound

/-- A text that begins with one of some characters, or is empty. -/
def BeginsIn (marks : List Char) (cs : List Char) : Prop :=
  ∀ c ∈ cs.head?, c ∈ marks

/-- The characters that stand behind a type. -/
def typeEnds : List Char :=
  [' ', '>', ')', ';']

/-- The characters that stand behind a type that is no union. -/
def memberEnds : List Char :=
  '[' :: typeEnds

/-- A text that may stand behind the spelling of a type, since it does not go on with it. -/
structure EndsType (rest : List Char) : Prop where
  begins : BeginsIn typeEnds rest
  noMember : ¬" | ".toList <+: rest

/-- A type that is no union is read as it is, and then the brackets behind it. They belong to the text behind the type,
since nothing tells before they come that the type is one of items. -/
def IsRead (t : DataType) : Prop :=
  ∀ bound, sizeOf t < bound → ∀ rest, BeginsIn memberEnds rest →
    readMember bound ((typeText t).toList ++ rest) = readBrackets t rest

theorem BeginsIn.memberEnds {rest : List Char} (h : BeginsIn typeEnds rest) : BeginsIn memberEnds rest :=
  fun c hc => List.mem_cons_of_mem '[' (h c hc)

theorem not_isNameChar_of_mem_memberEnds {c : Char} (h : c ∈ memberEnds) : isNameChar c = false := by
  have hall : memberEnds.all fun c => !isNameChar c := by
    decide
  simpa using List.all_eq_true.mp hall c h

theorem readBrackets_of_beginsIn {rest : List Char} (h : BeginsIn typeEnds rest) (t : DataType) :
    readBrackets t rest = (t, rest) := by
  rw [readBrackets]
  rintro cs rfl
  exact absurd (h '[' rfl) (by decide)

theorem ofMembers_membersOf {t : DataType} (h : IsNormal t) : ofMembers (membersOf t) = t := by
  cases h with
  | word word => rw [membersOf_ofWord, ofMembers]
  | union htwo =>
    rw [membersOf, ofMembers]
    rintro m rfl
    simp at htwo
  | _ => rfl

theorem length_le_sizeOf {α : Type} [SizeOf α] (parts : List α) : parts.length ≤ sizeOf parts := by
  induction parts with
  | nil => exact Nat.zero_le _
  | cons a parts ih =>
    rw [List.length_cons, List.cons.sizeOf_spec]
    omega

theorem length_membersOf_le (t : DataType) : (membersOf t).length ≤ sizeOf t + 1 := by
  cases t with
  | union members =>
    have hlength := length_le_sizeOf members
    rw [membersOf, DataType.union.sizeOf_spec]
    omega
  | _ => exact Nat.succ_le_succ (Nat.zero_le _)

theorem sizeOf_le_of_mem_membersOf {t m : DataType} (h : m ∈ membersOf t) : sizeOf m ≤ sizeOf t := by
  cases t with
  | union members =>
    have hmember : sizeOf m < sizeOf members := List.sizeOf_lt_of_mem h
    rw [DataType.union.sizeOf_spec]
    omega
  | _ => exact Nat.le_of_eq (congrArg sizeOf (List.mem_singleton.mp h))

/-- A type is read as it is if all its members are. -/
theorem readType_typeText {t : DataType} (h : IsNormal t) (hread : ∀ m ∈ membersOf t, IsRead m) {bound : Nat}
    (hbound : sizeOf t < bound) {rest : List Char} (hrest : EndsType rest) :
    readType bound ((typeText t).toList ++ rest) = (t, rest) := by
  have hlength := Nat.le_trans (length_membersOf_le t) hbound
  have hmark (rest : List Char) : BeginsIn typeEnds (" | ".toList ++ rest) := by
    intro c hc
    cases hc
    decide
  have hmember (m : DataType) (hm : m ∈ membersOf t) (rest : List Char) (hrest : BeginsIn typeEnds rest) :
      readMember bound ((typeText m).toList ++ rest) = (m, rest) := by
    rw [hread m hm bound (Nat.lt_of_le_of_lt (sizeOf_le_of_mem_membersOf hm) hbound) rest hrest.memberEnds,
      readBrackets_of_beginsIn hrest]
  rw [typeText_membersOf h.membersOf_ne_nil, readType, readUnion,
    readSeparated_intercalate hmark hrest.begins hrest.noMember hlength h.membersOf_ne_nil hmember]
  simp only [ofMembers_membersOf h]

theorem endsType_nil : EndsType [] :=
  ⟨fun _ h => (Option.not_mem_none _ h).elim, by decide⟩

theorem endsType_cons {c : Char} (h : c ∈ ['>', ')', ';']) (rest : List Char) : EndsType (c :: rest) := by
  refine ⟨fun c' hc' => ?_, fun hmark => ?_⟩
  · cases hc'
    exact List.mem_cons_of_mem ' ' h
  · obtain rfl : ' ' = c := (List.cons_prefix_cons.mp hmark).1
    exact absurd h (by decide)

theorem endsType_brace (rest : List Char) : EndsType (" \x7d".toList ++ rest) := by
  refine ⟨fun c hc => ?_, fun hmark => ?_⟩
  · cases hc
    decide
  · have hsecond := (List.cons_prefix_cons.mp (List.cons_prefix_cons.mp hmark).2).1
    exact absurd hsecond (by decide)

/-! ## Members, one by one -/

theorem isRead_of_succ {t : DataType}
    (h : ∀ bound, sizeOf t ≤ bound → ∀ rest, BeginsIn memberEnds rest →
      readMember (bound + 1) ((typeText t).toList ++ rest) = readBrackets t rest) : IsRead t := by
  intro bound hbound rest hrest
  cases bound with
  | zero => exact absurd hbound (Nat.not_lt_zero _)
  | succ bound => exact h bound (Nat.le_of_lt_succ hbound) rest hrest

theorem readMember_of_stem {t : DataType} {cs rest : List Char} {bound : Nat}
    (h : readStem (readType bound) bound cs = (t, rest)) : readMember (bound + 1) cs = readBrackets t rest := by
  rw [readMember, ← readType, h]

/-- What begins with a plain name begins with no bracket. -/
theorem readStem_of_isPlainName {word : String} (h : isPlainName word) (readType : List Char → DataType × List Char)
    (bound : Nat) (rest : List Char) :
    readStem readType bound (word.toList ++ rest) = readWords readType (word.toList ++ rest) := by
  obtain ⟨c, cs, heq, hc⟩ := head_isNameChar_of_isPlainName h rest
  have hbracket : c ≠ '(' ∧ c ≠ '\x7b' := by
    constructor <;> rintro rfl <;> exact absurd hc (by decide)
  rw [heq, readStem]
  · rintro cs' heq'
    exact hbracket.1 (List.cons.inj heq').1
  · rintro cs' heq'
    exact hbracket.2 (List.cons.inj heq').1
  · rintro cs' heq'
    exact hbracket.2 (List.cons.inj heq').1

theorem isRead_word {word : String} (h : isPlainName word) : IsRead (ofWord word) := by
  refine isRead_of_succ fun bound _ rest hrest => readMember_of_stem ?_
  have hword := readWord_append h fun c hc => not_isNameChar_of_mem_memberEnds (hrest c hc)
  rw [typeText_ofWord, readStem_of_isPlainName h, readWords, hword]
  split
  · next rest' heq =>
    obtain ⟨-, rfl⟩ := Prod.mk.inj heq
    exact absurd (hrest '<' rfl) (by decide)
  · next rest' hne heq =>
    obtain ⟨-, rfl⟩ := Prod.mk.inj heq
    exact absurd (hrest '<' rfl) (by decide)
  · next word' rest' _ _ heq =>
    obtain ⟨rfl, rfl⟩ := Prod.mk.inj heq
    rfl

theorem isRead_array {item : DataType} (hself : membersOf item = [item]) (h : IsRead item) :
    IsRead (.array item) := by
  intro bound hbound rest hrest
  have hitem : sizeOf item < bound := by
    rw [DataType.array.sizeOf_spec] at hbound
    omega
  -- No bound is spent on the item: it is read at once, with its own brackets among those behind it.
  rw [typeText_array hself, String.toList_append, List.append_assoc, h bound hitem]
  · simp [readBrackets]
  · intro c hc
    cases hc
    decide

theorem isRead_array_union {members : List DataType} (h : IsNormal (.union members)) (hread : ∀ m ∈ members, IsRead m) :
    IsRead (.array (.union members)) := by
  refine isRead_of_succ fun bound hbound rest hrest => ?_
  have hsize : sizeOf (DataType.union members) < bound := by
    rw [DataType.array.sizeOf_spec] at hbound
    omega
  have hunion := readType_typeText h hread hsize (endsType_cons (c := ')') (by decide) ('[' :: ']' :: rest))
  have hstem : readStem (readType bound) bound ((typeText (.array (.union members))).toList ++ rest) =
      (.union members, '[' :: ']' :: rest) := by
    rw [typeText_array_union h.two_le_length]
    simp [readStem, hunion]
  rw [readMember_of_stem hstem, readBrackets]

theorem isRead_promise {result : DataType} (h : IsNormal result) (hread : ∀ m ∈ membersOf result, IsRead m) :
    IsRead (.promise result) := by
  refine isRead_of_succ fun bound hbound rest hrest => readMember_of_stem ?_
  have hsize : sizeOf result < bound := by
    rw [DataType.promise.sizeOf_spec] at hbound
    omega
  have hresult := readType_typeText h hread hsize (endsType_cons (c := '>') (by decide) rest)
  have htext : (typeText (.promise result)).toList ++ rest =
      "Promise".toList ++ '<' :: ((typeText result).toList ++ '>' :: rest) := by
    rw [typeText]
    simp
  rw [htext, readStem_of_isPlainName (by decide), readWords, readWord_append_cons (by decide) (by decide)]
  simp [hresult]

theorem isRead_map {key : String} (hkey : isPlainName key) (htext : keyText (ofWord key) = key) {value : DataType}
    (h : IsNormal value) (hread : ∀ m ∈ membersOf value, IsRead m) : IsRead (.map (ofWord key) value) := by
  refine isRead_of_succ fun bound hbound rest hrest => readMember_of_stem ?_
  have hsize : sizeOf value < bound := by
    rw [DataType.map.sizeOf_spec] at hbound
    omega
  have hvalue := readType_typeText h hread hsize (endsType_cons (c := '>') (by decide) rest)
  have htext : (typeText (.map (ofWord key) value)).toList ++ rest =
      "Record".toList ++ '<' :: (key.toList ++ ',' :: ' ' :: ((typeText value).toList ++ '>' :: rest)) := by
    rw [typeText, htext]
    simp
  rw [htext, readStem_of_isPlainName (by decide), readWords, readWord_append_cons (by decide) (by decide)]
  simp [hvalue, readWord_append_cons hkey (show isNameChar ',' = false by decide)]

/-- A field is read as it is if the members of its type are. -/
theorem readField_fieldText {f : Field} (h : IsNormal f.type) (hread : ∀ m ∈ membersOf f.type, IsRead m) {bound : Nat}
    (hbound : sizeOf f.type < bound) {rest : List Char} (hrest : EndsType rest) :
    readField (readType bound) ((fieldText f).toList ++ rest) = (f, rest) := by
  obtain ⟨name, optional, type⟩ := f
  have htype := readType_typeText h hread hbound hrest
  have hcolon := readName_propertyName name (show isNameChar ':' = false by decide)
  have hmark := readName_propertyName name (show isNameChar '?' = false by decide)
  cases optional with
  | false => simp [readField, fieldText, hcolon, readOptional, htype]
  | true => simp [readField, fieldText, hmark, readOptional, htype]

theorem isRead_record {fields : List Field} (h : ∀ f ∈ fields, IsNormal f.type)
    (hread : ∀ f ∈ fields, ∀ m ∈ membersOf f.type, IsRead m) : IsRead (.record fields) := by
  refine isRead_of_succ fun bound hbound rest hrest => readMember_of_stem ?_
  by_cases hne : fields = []
  · rw [hne, typeText]
    simp [readStem]
  · have hsize (f : Field) (hf : f ∈ fields) : sizeOf f.type < bound :=
      Nat.lt_of_lt_of_le (Field.sizeOf_type_lt_of_mem hf) hbound
    have hlength : fields.length ≤ bound := by
      have hle := length_le_sizeOf fields
      rw [DataType.record.sizeOf_spec] at hbound
      omega
    have hmark (rest : List Char) : EndsType ("; ".toList ++ rest) := endsType_cons (c := ';') (by decide) (' ' :: rest)
    have hlast : ¬"; ".toList <+: " \x7d".toList ++ rest := fun hmark =>
      absurd (List.cons_prefix_cons.mp hmark).1 (by decide)
    -- A field ends at a semicolon, the last one at the brace, and neither goes on with a type.
    have hfields := readSeparated_intercalate hmark (endsType_brace rest) hlast hlength hne fun f hf rest hrest =>
      readField_fieldText (h f hf) (hread f hf) (hsize f hf) hrest
    have htext : (typeText (.record fields)).toList ++ rest =
        '\x7b' :: ' ' :: (("; ".intercalate (fields.map fieldText)).toList ++ (" \x7d".toList ++ rest)) := by
      rw [typeText_record hne]
      simp
    rw [htext, readStem, List.drop_one, List.tail_cons, hfields]
    · rfl
    · rintro rest' heq
      exact absurd (List.cons.inj heq).1 (by decide)

/-- Normal forms are read as they are, member by member. -/
theorem isRead_of_isNormal {t : DataType} (h : IsNormal t) : ∀ m ∈ membersOf t, IsRead m := by
  -- A union is not read by `readMember`, so this is about the members of a type. All but unions have one: themselves.
  induction h with
  | word word hplain =>
    rw [membersOf_ofWord]
    exact List.forall_mem_singleton.mpr (isRead_word hplain)
  | @array item hitem ih =>
    refine List.forall_mem_singleton.mpr ?_
    rcases membersOf_eq_or item with hself | ⟨members, rfl⟩
    · exact isRead_array hself (ih _ (by rw [hself]; exact List.mem_singleton_self _))
    · exact isRead_array_union hitem ih
  | map key hkey htext hvalue ih => exact List.forall_mem_singleton.mpr (isRead_map hkey htext hvalue ih)
  | promise hresult ih => exact List.forall_mem_singleton.mpr (isRead_promise hresult ih)
  | union htwo hmembers hflat ih =>
    intro m hm
    exact ih m hm m (by rw [hflat m hm]; exact List.mem_singleton_self m)
  | record hfields ih => exact List.forall_mem_singleton.mpr (isRead_record hfields ih)

theorem readType_typeText_normal {t : DataType} (h : IsLegible t) {bound : Nat} (hbound : sizeOf (normal t) < bound) :
    readType bound (typeText t).toList = (normal t, []) := by
  have hnormal := isNormal_normal h
  have hread := readType_typeText hnormal (isRead_of_isNormal hnormal) hbound endsType_nil
  rwa [List.append_nil, typeText_normal h] at hread

/-- Two types have the same spelling if they have the same normal form, and only then. -/
theorem typeText_eq_iff {t t' : DataType} (h : IsLegible t) (h' : IsLegible t') :
    typeText t = typeText t' ↔ normal t = normal t' := by
  constructor
  · intro heq
    -- One bound for both, so that one text is read in one way.
    have hread := readType_typeText_normal h (Nat.lt_succ_of_le (Nat.le_max_left _ (sizeOf (normal t'))))
    rw [heq, readType_typeText_normal h' (Nat.lt_succ_of_le (Nat.le_max_right _ _))] at hread
    exact (Prod.mk.inj hread).1.symm
  · intro heq
    rw [← typeText_normal h, heq, typeText_normal h']

/-- Lists of numbers with or without a unit, by a key that is a name for strings. -/
def readings : DataType :=
  .map (.named ⟨"Key", "a", .alias⟩) (.array (.union [.integer, .union [.named ⟨"Unit", "a", .record⟩, .null]]))

/-- The same with its union put together in another way, and with a unit that another module declares. -/
def regrouped : DataType :=
  .map .string (.array (.union [.union [.float, .named ⟨"Unit", "b", .alias⟩], .null]))

/-- The same, but only the last member of the union is a list. -/
def lastListed : DataType :=
  .map .string (.union [.double, .named ⟨"Unit", "a", .record⟩, .array .null])

theorem typeText_eq_iff_grouped :
    IsLegible readings ∧ IsLegible regrouped ∧ IsLegible lastListed ∧ typeText readings = typeText regrouped ∧
      typeText readings ≠ typeText lastListed := by
  have hkey : IsFreeName "Key" := by decide
  have hunit : IsFreeName "Unit" := by decide
  have hreadings : IsLegible readings :=
    ⟨by simp [readings, HasWideUnions], by simp [readings, DataType.references, hkey, hunit]⟩
  have hregrouped : IsLegible regrouped :=
    ⟨by simp [regrouped, HasWideUnions], by simp [regrouped, DataType.references, hunit]⟩
  have hlastListed : IsLegible lastListed :=
    ⟨by simp [lastListed, HasWideUnions], by simp [lastListed, DataType.references, hunit]⟩
  refine ⟨hreadings, hregrouped, hlastListed, ?_, ?_⟩
  · rw [typeText_eq_iff hreadings hregrouped]
    simp [readings, regrouped, normal, normalKey, membersOf]
  · rw [ne_eq, typeText_eq_iff hreadings hlastListed]
    simp [readings, lastListed, normal, normalKey, membersOf]

end ServiceStubs.TypeScript
