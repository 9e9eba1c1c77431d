import Mathlib.Data.List.TakeWhile
import ServiceStubs.Proofs.Target.TextLiteral

/-!
# Keys in generated code

Records name their keys on the wire in string literals. Since texts are told apart by their code units, a literal
stands for one text at most. In Go the literal is part of a tag, and the package that reads it has rules of its own:
a tag can say that a field is left out, or that it has options, and a name in a tag has to be of certain characters.

* `unitsOf_injective` tells texts apart in every target;
* `denotes_textLiteral_iff` says what the literal for a text stands for;
* `Go.HasKey` are the rules for the fields of a struct;
* `Go.jsonTag_tagSource_iff` reads a tag back, and `Go.claimsKey_fieldTag_iff` says for which names the tag that is
  written for a field gives the name.
-/

namespace ServiceStubs

open Text (LiteralRules utf16Units utf8Units)

/-! ## Texts and their code units -/

namespace Text

/-- Code points are told apart by their bytes, whatever follows. -/
theorem utf8Units_append_inj {a b : Nat} (ha : a < 0x110000) (hb : b < 0x110000) {xs ys : List Nat}
    (h : utf8Units a ++ xs = utf8Units b ++ ys) : a = b ∧ xs = ys := by
  unfold utf8Units at h
  split_ifs at h <;> simp only [List.cons_append, List.nil_append, List.cons.injEq] at h <;>
    first | exact ⟨by omega, h.2⟩ | exact ⟨by omega, h.2.2⟩ | exact ⟨by omega, h.2.2.2⟩ |
      exact ⟨by omega, h.2.2.2.2⟩ | omega

/-- Code points that are no surrogates are told apart by their code units, whatever follows. -/
theorem utf16Units_append_inj {a b : Nat} (ha : a.isValidChar) (hb : b.isValidChar) {xs ys : List Nat}
    (h : utf16Units a ++ xs = utf16Units b ++ ys) : a = b ∧ xs = ys := by
  unfold Nat.isValidChar at ha hb
  unfold utf16Units at h
  split_ifs at h <;> simp only [List.cons_append, List.nil_append, List.cons.injEq] at h <;>
    first | exact ⟨by omega, h.2⟩ | exact ⟨by omega, h.2.2⟩ | omega

/-- Where the first character can be told from the code units, so can the text. -/
theorem LiteralRules.unitsOf_injective {rules : LiteralRules}
    (h : ∀ c d : Char, ∀ xs ys, rules.encode c.toNat ++ xs = rules.encode d.toNat ++ ys → c = d ∧ xs = ys) :
    Function.Injective rules.unitsOf := by
  have hne : ∀ (c : Char) (rest : List Char), rules.unitsOf (c :: rest) ≠ [] := by
    intro c rest hnil
    have hpos := (rules.encode_length c.toNat).1
    rw [LiteralRules.unitsOf_cons, List.append_eq_nil_iff] at hnil
    rw [hnil.1] at hpos
    exact Nat.lt_irrefl 0 hpos
  -- No character has an empty code, so that neither text can end before the other.
  intro text
  induction text with
  | nil =>
    intro text' heq
    cases text' with
    | nil => rfl
    | cons d rest => exact absurd heq.symm (hne d rest)
  | cons c rest ih =>
    intro text' heq
    cases text' with
    | nil => exact absurd heq (hne c rest)
    | cons d rest' =>
      rw [LiteralRules.unitsOf_cons, LiteralRules.unitsOf_cons] at heq
      obtain ⟨rfl, hrest⟩ := h c d _ _ heq
      rw [ih hrest]

end Text

variable (data : UnicodeData)

theorem unitsOf_injective (target : Target) : Function.Injective (target.literalRules data).unitsOf := by
  -- Each of the three encodings can be told from what follows, since it is read from the front.
  have hbytes : ∀ c d : Char, ∀ xs ys, utf8Units c.toNat ++ xs = utf8Units d.toNat ++ ys → c = d ∧ xs = ys := by
    intro c d xs ys h
    have hbound : ∀ c : Char, c.toNat < 0x110000 :=
      fun c => c.valid.elim (fun h => Nat.lt_trans h (by decide)) fun h => h.2
    obtain ⟨hc, hrest⟩ := Text.utf8Units_append_inj (hbound c) (hbound d) h
    exact ⟨Char.toNat_inj.mp hc, hrest⟩
  have hunits : ∀ c d : Char, ∀ xs ys, utf16Units c.toNat ++ xs = utf16Units d.toNat ++ ys → c = d ∧ xs = ys := by
    intro c d xs ys h
    obtain ⟨hc, hrest⟩ := Text.utf16Units_append_inj c.valid d.valid h
    exact ⟨Char.toNat_inj.mp hc, hrest⟩
  have hpoints : ∀ c d : Char, ∀ xs ys : List Nat, [c.toNat] ++ xs = [d.toNat] ++ ys → c = d ∧ xs = ys := by
    intro c d xs ys h
    obtain ⟨hc, hrest⟩ := List.cons.inj h
    exact ⟨Char.toNat_inj.mp hc, hrest⟩
  cases target with
  | typeScript => exact Text.LiteralRules.unitsOf_injective hunits
  | javaScript => exact Text.LiteralRules.unitsOf_injective hunits
  | python => exact Text.LiteralRules.unitsOf_injective hpoints
  | swift => exact Text.LiteralRules.unitsOf_injective hpoints
  | dart => exact Text.LiteralRules.unitsOf_injective hunits
  | kotlin => exact Text.LiteralRules.unitsOf_injective hunits
  | go => exact Text.LiteralRules.unitsOf_injective hbytes

/-! ## What literals stand for -/

/-- The literal stands for the text by the rules of the target. -/
def Target.Denotes (target : Target) (literal text : String) : Prop :=
  ∃ body, literal.toList = '"' :: body ∧
    (target.literalRules data).read body = some ((target.literalRules data).unitsOf text.toList, [])

theorem Target.Denotes.unique {data : UnicodeData} {target : Target} {literal text text' : String}
    (h : target.Denotes data literal text) (h' : target.Denotes data literal text') : text = text' := by
  obtain ⟨body, hbody, hread⟩ := h
  obtain ⟨body', hbody', hread'⟩ := h'
  obtain rfl : body = body' := (List.cons.inj (hbody.symm.trans hbody')).2
  rw [hread] at hread'
  have hunits := (Prod.mk.inj (Option.some.inj hread')).1
  exact String.toList_injective (unitsOf_injective data target hunits)

/-- The literal for a text stands for this text, and cannot be read if it has a character that the target misspells. -/
theorem denotes_textLiteral_iff (target : Target) (type : DataType) (s text : String) :
    target.Denotes data (target.textLiteral type s) text ↔
      s.toList.any target.misspells = false ∧ text = s := by
  obtain ⟨body, hbody, hread⟩ := read_textLiteral data target type s []
  rw [List.append_nil] at hread
  constructor
  · rintro ⟨body', hbody', hread'⟩
    obtain rfl : body' = body := (List.cons.inj (hbody'.symm.trans hbody)).2
    rw [hread'] at hread
    split at hread
    · cases hread
    · rename_i hspelled
      have hunits := (Prod.mk.inj (Option.some.inj hread)).1
      exact ⟨Bool.eq_false_iff.mpr hspelled,
        String.toList_injective (unitsOf_injective data target hunits)⟩
  · rintro ⟨hspelled, rfl⟩
    rw [hspelled, if_neg Bool.false_ne_true] at hread
    exact ⟨body, hbody, hread⟩

/-! ## Tags of struct fields -/

/-- The characters that escapes are written with. -/
def escapeChars : List Char :=
  "\\\"nrtbfu0123456789abcdef".toList

/-- An escaped character is written with the characters of escapes, or stands for itself. -/
theorem mem_jsonEscape {c d : Char} (h : d ∈ Text.jsonEscape c) : d ∈ escapeChars ∨ (d = c ∧ 32 ≤ c.toNat) := by
  rcases Text.jsonEscape_cases c with ⟨letter, hletter, hescaped⟩ | ⟨-, hcontrol, hescaped⟩ |
    ⟨hprintable, -, -, hescaped⟩
  · have hletters : ∀ pair ∈ Text.letterEscapes, pair.2 ∈ escapeChars := by decide
    rw [hescaped, List.mem_cons, List.mem_singleton] at h
    rcases h with rfl | rfl
    · exact .inl (by decide)
    · exact .inl (hletters _ hletter)
  · have hdigits : ∀ n < 32, ('\\' :: 'u' :: Text.hexPadded 4 n).all (· ∈ escapeChars) := by decide
    rw [hescaped] at h
    exact .inl (of_decide_eq_true (List.all_eq_true.mp (hdigits c.toNat hcontrol) d h))
  · rw [hescaped, List.mem_singleton] at h
    exact .inr ⟨h, hprintable⟩

namespace Go

/-- What the package for JSON asks about characters. -/
structure Characters where
  isLetter : Char → Bool
  isDigit : Char → Bool
  isUpper : Char → Bool

variable (chars : Characters)

/-- A name that can be taken from a tag: letters, digits, and the punctuation that is not reserved. -/
def isValidTag (name : String) : Bool :=
  !name.isEmpty && name.toList.all fun c =>
    chars.isLetter c || chars.isDigit c || "!#$%&()*+-./:;<=>?@[]^_\x7b|\x7d~ ".toList.contains c

/-- The name in a tag, which options follow behind a comma. -/
def tagName (tag : String) : String :=
  String.ofList (tag.toList.takeWhile (· ≠ ','))

/-- The source is a raw string that gives the key `json` the tag. Raw strings end at the next backquote, and carriage
returns do not count in them. -/
def JsonTag (source tag : String) : Prop :=
  ∃ raw literal, source.toList = backquote :: (raw ++ [backquote]) ∧ backquote ∉ raw ∧
    raw.filter (· ≠ '\r') = "json:".toList ++ '"' :: literal ∧
    goLiterals.read literal = some (goLiterals.unitsOf tag.toList, [])

/-- What the field of a struct is read from and written to, as far as the other fields leave it alone. Fields take
part if their identifiers are exported and their tags are not a dash. Without a valid name in the tag, the key is the
identifier. -/
def ClaimsKey (ident source key : String) : Prop :=
  (∃ c ∈ ident.toList.head?, chars.isUpper c) ∧
    ∃ tag, JsonTag source tag ∧ tag ≠ "-" ∧ key = if isValidTag chars (tagName tag) then tagName tag else ident

/-- The tag has the name of a key in it. -/
def IsTagged (source : String) : Prop :=
  ∃ tag, JsonTag source tag ∧ isValidTag chars (tagName tag)

/-- The field of a struct is read from the key and written to it. Where several fields claim one key, the only one with
a name in its tag has it, and if there is no such field, none of them has. -/
def HasKey (struct : List (String × String)) (ident source key : String) : Prop :=
  ClaimsKey chars ident source key ∧
    ∀ other ∈ struct, other.1 ≠ ident → ClaimsKey chars other.1 other.2 key →
      IsTagged chars source ∧ ¬IsTagged chars other.2

theorem JsonTag.unique {source tag tag' : String} (h : JsonTag source tag) (h' : JsonTag source tag') :
    tag = tag' := by
  obtain ⟨raw, literal, hsource, -, hraw, hread⟩ := h
  obtain ⟨raw', literal', hsource', -, hraw', hread'⟩ := h'
  obtain rfl : raw = raw' := List.append_cancel_right (List.cons.inj (hsource.symm.trans hsource')).2
  have hliteral := List.append_cancel_left (hraw.symm.trans hraw')
  obtain rfl : literal = literal' := (List.cons.inj hliteral).2
  rw [hread] at hread'
  have hunits := (Prod.mk.inj (Option.some.inj hread')).1
  exact String.toList_injective (unitsOf_injective plainUnicode .go hunits)

theorem ClaimsKey.unique {chars : Characters} {ident source key key' : String}
    (h : ClaimsKey chars ident source key) (h' : ClaimsKey chars ident source key') : key = key' := by
  obtain ⟨-, tag, htag, -, rfl⟩ := h
  obtain ⟨-, tag', htag', -, rfl⟩ := h'
  rw [htag.unique htag']

/-! ## The tag that is written for a field -/

/-- The tag in source form. -/
def tagSource (tag : String) : String :=
  "`json:" ++ Text.quote tag false ++ "`"

/-- The raw string for a tag. -/
def tagRaw (tag : String) : List Char :=
  "json:".toList ++ '"' :: (tag.toList.flatMap Text.jsonEscape ++ ['"'])

theorem toList_quote (tag : String) :
    (Text.quote tag false).toList = '"' :: (tag.toList.flatMap Text.jsonEscape ++ ['"']) := by
  unfold Text.quote Text.jsonQuoted
  rw [if_neg Bool.false_ne_true, String.toList_ofList]

theorem toList_tagSource (tag : String) :
    (tagSource tag).toList = backquote :: (tagRaw tag ++ [backquote]) := by
  unfold tagSource tagRaw
  rw [String.toList_append, String.toList_append, toList_quote, List.append_assoc]
  rfl

/-- A character that escapes are not written with is in the raw string if it is in the tag and is not escaped. -/
theorem mem_tagRaw_iff {c : Char} (hfixed : c ∉ "json:\"".toList) (hescape : c ∉ escapeChars) (tag : String) :
    c ∈ tagRaw tag ↔ c ∈ tag.toList ∧ 32 ≤ c.toNat := by
  unfold tagRaw
  constructor
  · intro h
    rcases List.mem_append.mp h with hkey | hliteral
    · exact absurd (List.mem_append_left ['"'] hkey) hfixed
    · rw [← List.singleton_append, List.mem_append, List.mem_append, or_comm, or_assoc, or_self,
        List.mem_flatMap] at hliteral
      rcases hliteral with ⟨d, hd, hc⟩ | hquote
      · rcases mem_jsonEscape hc with habsurd | ⟨rfl, hprintable⟩
        · exact absurd habsurd hescape
        · exact ⟨hd, hprintable⟩
      · exact absurd (List.mem_append_right "json:".toList hquote) hfixed
  · rintro ⟨hc, hprintable⟩
    refine List.mem_append_right _ (List.mem_cons_of_mem _ (List.mem_append_left _ (List.mem_flatMap.mpr ⟨c, hc, ?_⟩)))
    rcases Text.jsonEscape_cases c with ⟨letter, hletter, -⟩ | ⟨-, hcontrol, -⟩ | ⟨-, -, -, hplain⟩
    · -- Of the characters that are escaped by a letter, the printable ones are in escapes themselves.
      have hescaped : ∀ pair ∈ Text.letterEscapes, 32 ≤ pair.1.toNat → pair.1 ∈ escapeChars := by decide
      exact absurd (hescaped _ hletter hprintable) hescape
    · omega
    · rw [hplain]
      exact List.mem_singleton_self c

/-- A tag is read back unless it has a backquote, which ends the raw string, or a byte order mark. -/
theorem jsonTag_tagSource_iff (tag text : String) :
    JsonTag (tagSource tag) text ↔ backquote ∉ tag.toList ∧ '\ufeff' ∉ tag.toList ∧ text = tag := by
  have hbackquote : backquote ∈ tagRaw tag ↔ backquote ∈ tag.toList := by
    rw [mem_tagRaw_iff (by decide) (by decide)]
    exact and_iff_left (by decide)
  have hreturn : '\r' ∉ tagRaw tag := by
    rw [mem_tagRaw_iff (by decide) (by decide)]
    exact fun h => absurd h.2 (by decide)
  -- Raw strings lose carriage returns, but these have been escaped.
  have hfilter : (tagRaw tag).filter (· ≠ '\r') = tagRaw tag :=
    List.filter_eq_self.mpr fun c hc => decide_eq_true (ne_of_mem_of_not_mem hc hreturn)
  have hmark : tag.toList.any Target.go.misspells = false ↔ '\ufeff' ∉ tag.toList := by
    rw [List.any_eq_false]
    constructor
    · exact fun h hmem => h _ hmem rfl
    · exact fun h c hc hmark => h (eq_of_beq hmark ▸ hc)
  have hdenotes := denotes_textLiteral_iff plainUnicode .go .string tag text
  rw [hmark] at hdenotes
  constructor
  · rintro ⟨raw, literal, hsource, hraw, hjson, hread⟩
    rw [toList_tagSource] at hsource
    obtain rfl : tagRaw tag = raw := List.append_cancel_right (List.cons.inj hsource).2
    rw [hfilter] at hjson
    have hliteral : '"' :: (tag.toList.flatMap Text.jsonEscape ++ ['"']) = '"' :: literal :=
      List.append_cancel_left hjson
    exact ⟨mt hbackquote.mpr hraw, hdenotes.mp ⟨literal, (toList_quote tag).trans hliteral, hread⟩⟩
  · rintro ⟨hnone, htext⟩
    obtain ⟨literal, hliteral, hread⟩ := hdenotes.mpr htext
    refine ⟨tagRaw tag, literal, toList_tagSource tag, mt hbackquote.mp hnone, ?_, hread⟩
    rw [hfilter, ← hliteral]
    unfold tagRaw
    rw [← toList_quote]
    rfl

/-- The tag of a field. -/
def fieldTag (name : String) (optional : Bool) : String :=
  if optional then name ++ ",omitempty" else name

/-- Options do not change the name in a tag. -/
theorem tagName_fieldTag (name : String) (optional : Bool) : tagName (fieldTag name optional) = tagName name := by
  unfold fieldTag
  split
  · unfold tagName
    rw [String.toList_append, List.takeWhile_append]
    split
    · rename_i hall
      have hname : name.toList.takeWhile (· ≠ ',') = name.toList :=
        (List.takeWhile_prefix _).eq_of_length hall
      have hoptions : ",omitempty".toList.takeWhile (· ≠ ',') = [] := rfl
      rw [hname, hoptions, List.append_nil]
    · rfl
  · rfl

theorem tagName_eq_self_iff (tag : String) : tagName tag = tag ↔ ',' ∉ tag.toList := by
  rw [← String.toList_inj, tagName, String.toList_ofList, List.takeWhile_eq_self_iff]
  simp only [ne_eq, decide_eq_true_eq]
  exact ⟨fun h hmem => h _ hmem rfl, fun h c hc hcomma => h (hcomma ▸ hc)⟩

theorem fieldTag_ne_dash_iff (name : String) (optional : Bool) :
    fieldTag name optional ≠ "-" ↔ (name = "-" → optional) := by
  cases optional with
  | false => simp [fieldTag]
  | true =>
    refine iff_of_true (fun h => ?_) fun _ => rfl
    have hlength := congrArg (fun s => s.toList.length) h
    simp [fieldTag] at hlength

/-- What the name of a field has to be for its tag to keep it. -/
structure KeepsName (ident name : String) (optional : Bool) : Prop where
  exported : ∃ c ∈ ident.toList.head?, chars.isUpper c
  noBackquote : backquote ∉ name.toList
  noMark : '\ufeff' ∉ name.toList
  /-- With options behind it, a dash is a name. -/
  noDash : name = "-" → optional
  /-- What is no valid name can be the identifier. -/
  named : (',' ∉ name.toList ∧ isValidTag chars name) ∨ (ident = name ∧ ¬isValidTag chars (tagName name))

theorem claimsKey_fieldTag_iff (ident name : String) (optional : Bool) :
    ClaimsKey chars ident (tagSource (fieldTag name optional)) name ↔ KeepsName chars ident name optional := by
  have hread : ∀ tag, JsonTag (tagSource (fieldTag name optional)) tag ↔
      (backquote ∉ name.toList ∧ '\ufeff' ∉ name.toList) ∧ tag = fieldTag name optional := by
    intro tag
    rw [jsonTag_tagSource_iff, and_assoc]
    have hoptions : ∀ c, c ∉ ",omitempty".toList → (c ∉ (fieldTag name optional).toList ↔ c ∉ name.toList) := by
      intro c hc
      unfold fieldTag
      split
      · rw [String.toList_append, List.mem_append, or_iff_left hc]
      · rfl
    rw [hoptions _ (by decide), hoptions _ (by decide)]
  -- The part of the tag in front of the comma is the key if it is valid, else the identifier is.
  have hnamed : name = (if isValidTag chars (tagName name) then tagName name else ident) ↔
      (',' ∉ name.toList ∧ isValidTag chars name) ∨ (ident = name ∧ ¬isValidTag chars (tagName name)) := by
    rw [← tagName_eq_self_iff]
    by_cases hvalid : isValidTag chars (tagName name)
    · rw [if_pos hvalid, or_iff_left fun h => h.2 hvalid, eq_comm]
      exact ⟨fun h => ⟨h, h ▸ hvalid⟩, And.left⟩
    · have hnone : ¬(tagName name = name ∧ isValidTag chars name) := fun h => hvalid (h.1.symm ▸ h.2)
      rw [if_neg hvalid, or_iff_right hnone, eq_comm]
      exact (and_iff_left hvalid).symm
  unfold ClaimsKey
  constructor
  · rintro ⟨hexported, tag, htag, hdash, hkey⟩
    obtain ⟨⟨hbackquote, hmark⟩, rfl⟩ := (hread tag).mp htag
    rw [tagName_fieldTag] at hkey
    exact ⟨hexported, hbackquote, hmark, (fieldTag_ne_dash_iff name optional).mp hdash, hnamed.mp hkey⟩
  · rintro ⟨hexported, hbackquote, hmark, hdash, hkey⟩
    refine ⟨hexported, _, (hread _).mpr ⟨⟨hbackquote, hmark⟩, rfl⟩, (fieldTag_ne_dash_iff name optional).mpr hdash, ?_⟩
    rw [tagName_fieldTag]
    exact hnamed.mpr hkey

end Go

end ServiceStubs
