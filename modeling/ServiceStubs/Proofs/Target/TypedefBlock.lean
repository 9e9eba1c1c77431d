import ServiceStubs.Proofs.Start
import ServiceStubs.Proofs.Target.DocComments
import ServiceStubs.Proofs.Text.Occurrence
import ServiceStubs.Proofs.Text.Quoted
import ServiceStubs.Target.JavaScript

/-!
# Typedef blocks

A JavaScript client tells its types in block comments that are put together from the names and values of the source
file. Types and tags bring no end of a comment with them, but the names and values are not escaped, and whatever of
them has one in it ends the comment early.

* `Declaration.spelledTexts` are the texts that a block takes over from the source file;
* `endsComment_typeText` and `endsComment_description` find the ends of comments in the parts of a block;
* `isComment_enclosed_iff` says when what stands between an opening and a closing line is one comment with them;
* `declarationText_isComment_iff` says which declarations make one comment;
* `declarationText_not_isComment` is a declaration that does not.
-/

namespace ServiceStubs

open Text (linesFrom trimEnd occursIn IsFront IsTail)

/-! ## What a block takes over -/

/-- The names in the spelling of a type: those of references and those of properties. -/
def DataType.spelledNames : DataType → List String
  | .array item => item.spelledNames
  | .map key value => key.spelledNames ++ value.spelledNames
  | .promise result => result.spelledNames
  | .union members => members.flatMap fun m => m.spelledNames
  | .named ref => [ref.name]
  | .record fields => fields.flatMap fun f => f.name :: f.type.spelledNames
  | .string | .integer | .double | .float | .boolean | .void | .null | .any | .date => []
termination_by t => sizeOf t
decreasing_by
  all_goals first | decreasing_tactic | exact Field.sizeOf_type_lt_of_mem ‹_ ∈ _›

/-- The text in a constant. -/
def Literal.spelledTexts : Literal → List String
  | .string value => [value]
  | .number text => [text]
  | .boolean _ | .null => []

/-- The names and values in the body of a declaration. -/
def DeclBody.spelledTexts : DeclBody → List String
  | .record fields => fields.flatMap fun f => f.name :: f.type.spelledNames
  | .enumeration cases => cases.flatMap fun c => c.value.spelledTexts
  | .alias type => type.spelledNames

/-- The texts that stand in the block for a declaration: the description, the name, and what is in the body. -/
def Declaration.spelledTexts (d : Declaration) : List String :=
  d.docs.toList ++ d.name :: d.body.spelledTexts

/-- The end of a block comment occurs in a text. -/
def EndsComment (s : String) : Prop :=
  occursIn ['*', '/'] s.toList

instance (s : String) : Decidable (EndsComment s) :=
  inferInstanceAs (Decidable (_ = true))

/-! ## Seams -/

section

variable {front back sep : String}

theorem endsComment_behind (h : IsFront '*' '/' front.toList) (s : String) :
    EndsComment (front ++ s) ↔ EndsComment s := by
  unfold EndsComment
  rw [String.toList_append, h.occursIn_append]

theorem endsComment_before (h : IsTail '*' '/' back.toList) (s : String) :
    EndsComment (s ++ back) ↔ EndsComment s := by
  unfold EndsComment
  rw [String.toList_append, h.occursIn_append]

theorem endsComment_enclosed (hfront : IsFront '*' '/' front.toList) (hback : IsTail '*' '/' back.toList) (s : String) :
    EndsComment (front ++ s ++ back) ↔ EndsComment s := by
  rw [endsComment_before hback, endsComment_behind hfront]

theorem endsComment_separated (hne : sep.toList ≠ []) (hfront : IsFront '*' '/' sep.toList)
    (hback : IsTail '*' '/' sep.toList) (s t : String) :
    EndsComment (s ++ sep ++ t) ↔ EndsComment s ∨ EndsComment t := by
  unfold EndsComment
  rw [String.toList_append, String.toList_append, Text.occursIn_pair_separated hne hfront hback]

theorem endsComment_intercalate (hne : sep.toList ≠ []) (hfront : IsFront '*' '/' sep.toList)
    (hback : IsTail '*' '/' sep.toList) {α : Type} (text : α → String) (parts : List α) :
    EndsComment (sep.intercalate (parts.map text)) ↔ ∃ p ∈ parts, EndsComment (text p) := by
  unfold EndsComment
  rw [String.toList_intercalate, Text.occursIn_pair_intercalate hne hfront hback]
  simp

theorem endsComment_join {α : Type} {text : α → String} {parts : List α}
    (h : ∀ p ∈ parts, (text p).toList.head? ≠ some '/') :
    EndsComment (String.join (parts.map text)) ↔ ∃ p ∈ parts, EndsComment (text p) := by
  unfold EndsComment
  rw [String.toList_join, List.flatMap_map, Text.occursIn_pair_flatMap h]

end

/-! ## Names and values -/

theorem keepsPair_jsonEscape : Text.KeepsPair '*' '/' Text.jsonEscape where
  kept := by
    rintro c (rfl | rfl) <;> rfl
  ne_nil := by
    intro c
    rcases Text.jsonEscape_cases c with ⟨letter, -, hescape⟩ | ⟨-, -, hescape⟩ | ⟨-, -, -, hescape⟩ <;> simp [hescape]
  not_mem := by
    intro c hstar hslash
    rcases Text.jsonEscape_cases c with ⟨letter, hletter, hescape⟩ | ⟨-, hcontrol, hescape⟩ | ⟨-, -, -, hescape⟩
    · have hletters : Text.letterEscapes.all (fun pair => pair.2 != '*' && pair.2 != '/') = true := by decide
      have hne := List.all_eq_true.mp hletters _ hletter
      rw [hescape]
      simp at hne ⊢
      exact ⟨Ne.symm hne.1, Ne.symm hne.2⟩
    · rw [hescape]
      generalize c.toNat = n at hcontrol
      revert n
      decide
    · rw [hescape]
      simp [Ne.symm hstar, Ne.symm hslash]

theorem endsComment_quote (s : String) : EndsComment (Text.quote s false) ↔ EndsComment s := by
  have hquoted : (Text.quote s false).toList = ['"'] ++ s.toList.flatMap Text.jsonEscape ++ ['"'] := by
    unfold Text.quote Text.jsonQuoted
    simp
  unfold EndsComment
  rw [hquoted, Text.occursIn_pair_enclosed (by decide) (by decide), keepsPair_jsonEscape.occursIn_flatMap]

theorem endsComment_propertyName (name : String) : EndsComment (TypeScript.propertyName name) ↔ EndsComment name := by
  unfold TypeScript.propertyName
  split
  · rfl
  · exact endsComment_quote name

theorem endsComment_literalText (value : Literal) :
    EndsComment (TypeScript.literalText value) ↔ ∃ s ∈ value.spelledTexts, EndsComment s := by
  cases value with
  | string value => simpa [Literal.spelledTexts, TypeScript.literalText] using endsComment_quote value
  | number text => simp [Literal.spelledTexts, TypeScript.literalText]
  | boolean value =>
    refine iff_of_false ?_ (by simp [Literal.spelledTexts])
    cases value <;> decide
  | null => exact iff_of_false (by decide) (by simp [Literal.spelledTexts])

namespace JavaScript

/-- A spelling without names does not end a comment. -/
theorem endsComment_iff_of_nameless {s : String} {names : List String} (hs : ¬EndsComment s) (hnames : names = []) :
    EndsComment s ↔ ∃ name ∈ names, EndsComment name :=
  iff_of_false hs (by simp [hnames])

/-- The property of a record type. -/
theorem endsComment_property (f : Field) :
    EndsComment (TypeScript.propertyName f.name ++ ": " ++
        (if f.optional then "(" ++ typeText f.type ++ "|undefined)" else typeText f.type)) ↔
      EndsComment f.name ∨ EndsComment (typeText f.type) := by
  rw [endsComment_separated (by decide) (by decide) (by decide), endsComment_propertyName]
  refine or_congr_right ?_
  split
  · rw [endsComment_enclosed (by decide) (by decide)]
  · rfl

/-- The spelling of a type ends a comment if a name in it does. -/
theorem endsComment_typeText (t : DataType) : EndsComment (typeText t) ↔ ∃ s ∈ t.spelledNames, EndsComment s := by
  fun_induction typeText t with
  | case10 item ih => rw [endsComment_enclosed (by decide) (by decide), ih, DataType.spelledNames]
  | case11 key value ihvalue ihkey =>
    rw [endsComment_before (by decide), endsComment_separated (by decide) (by decide) (by decide),
      endsComment_behind (by decide), ihkey, ihvalue, DataType.spelledNames]
    simp only [List.mem_append, or_and_right, exists_or]
  | case12 result ih => rw [endsComment_enclosed (by decide) (by decide), ih, DataType.spelledNames]
  | case14 members _ ih =>
    rw [endsComment_enclosed (by decide) (by decide), endsComment_intercalate (by decide) (by decide) (by decide),
      DataType.spelledNames, Text.exists_mem_flatMap]
    exact exists_congr fun m => and_congr_right (ih m)
  | case15 ref => simp [DataType.spelledNames]
  | case17 fields _ ih =>
    rw [endsComment_enclosed (by decide) (by decide), commaSeparated,
      endsComment_intercalate (by decide) (by decide) (by decide), DataType.spelledNames, Text.exists_mem_flatMap]
    refine exists_congr fun f => and_congr_right fun hf => ?_
    rw [endsComment_property, ih f hf, List.exists_mem_cons_iff]
  | _ => exact endsComment_iff_of_nameless (by decide) (by simp [DataType.spelledNames])

/-! ## Tags -/

/-- The tag of a field, on a line of its own. -/
theorem endsComment_fieldTag (f : Field) :
    EndsComment (" * @property " ++ bracedType (typeText f.type) ++ " " ++
        (if f.optional then "[" ++ f.name ++ "]" else f.name) ++ "\n") ↔
      EndsComment f.name ∨ EndsComment (typeText f.type) := by
  rw [endsComment_before (by decide), endsComment_separated (by decide) (by decide) (by decide), bracedType,
    endsComment_behind (by decide), endsComment_enclosed (by decide) (by decide), or_comm]
  refine or_congr_left ?_
  split
  · rw [endsComment_enclosed (by decide) (by decide)]
  · rfl

theorem endsComment_typedef (type name : String) :
    EndsComment (" * @typedef " ++ bracedType type ++ " " ++ name ++ "\n") ↔ EndsComment type ∨ EndsComment name := by
  rw [endsComment_before (by decide), endsComment_separated (by decide) (by decide) (by decide), bracedType,
    endsComment_behind (by decide), endsComment_enclosed (by decide) (by decide)]

/-- The values of an enum, one of which may be meant. -/
theorem endsComment_values (cases : List EnumCase) :
    EndsComment ("(" ++
        (if cases.isEmpty then "*" else "|".intercalate (cases.map fun c => TypeScript.literalText c.value)) ++ ")") ↔
      ∃ s ∈ (DeclBody.enumeration cases).spelledTexts, EndsComment s := by
  rw [endsComment_enclosed (by decide) (by decide), DeclBody.spelledTexts]
  split
  · rename_i hempty
    obtain rfl := List.isEmpty_iff.mp hempty
    exact iff_of_false (by decide) (by simp)
  · rw [endsComment_intercalate (by decide) (by decide) (by decide), Text.exists_mem_flatMap]
    exact exists_congr fun c => and_congr_right fun _ => endsComment_literalText c.value

/-! ## Definitions -/

theorem endsComment_recordDefinition (name : String) (fields : List Field) :
    EndsComment (" * @typedef \x7bObject\x7d " ++ name ++ "\n" ++
        String.join (fields.map fun f =>
          " * @property " ++ bracedType (typeText f.type) ++ " " ++
            (if f.optional then "[" ++ f.name ++ "]" else f.name) ++ "\n")) ↔
      EndsComment name ∨ ∃ s ∈ (DeclBody.record fields).spelledTexts, EndsComment s := by
  rw [endsComment_separated (by decide) (by decide) (by decide), endsComment_behind (by decide),
    endsComment_join (by simp), DeclBody.spelledTexts, Text.exists_mem_flatMap]
  refine or_congr_right (exists_congr fun f => and_congr_right fun _ => ?_)
  rw [endsComment_fieldTag, endsComment_typeText, List.exists_mem_cons_iff]

end JavaScript

/-! ## Descriptions -/

namespace BlockScan

/-- The comment goes on. -/
def IsOpen : BlockScan → Prop
  | .inside _ => True
  | .closed | .beyond => False

theorem isOpen_reset_iff (s : BlockScan) : s.reset.IsOpen ↔ s.IsOpen := by
  cases s <;> exact Iff.rfl

theorem isOpen_iff {s : BlockScan} : s.IsOpen ↔ ∃ star, s = .inside star := by
  cases s with
  | inside star => exact iff_of_true trivial ⟨star, rfl⟩
  | closed => exact iff_of_false id (by simp)
  | beyond => exact iff_of_false id (by simp)

/-- A comment goes on behind a text that does not end it, neither by itself nor with the star in front of it. -/
theorem isOpen_foldl_iff (cs : List Char) (star : Bool) :
    (cs.foldl next (.inside star)).IsOpen ↔ ¬(star ∧ cs.head? = some '/') ∧ ¬occursIn ['*', '/'] cs := by
  induction cs generalizing star with
  | nil => simp [IsOpen]
  | cons c cs ih =>
    rw [List.foldl_cons, Text.occursIn_pair_cons, List.head?_cons, Option.some.injEq]
    by_cases hend : star ∧ c = '/'
    · have hclosed : (inside star).next c = .closed := if_pos hend
      refine iff_of_false ?_ fun h => h.1 hend
      rw [hclosed]
      cases cs with
      | nil => exact id
      | cons d cs =>
        have hbeyond : (d :: cs).foldl next .closed = .beyond := foldl_beyond cs
        rw [hbeyond]
        exact id
    · have hinside : (inside star).next c = .inside (c = '*') := if_neg hend
      rw [hinside, ih, and_iff_right hend, not_or, decide_eq_true_eq]

end BlockScan

theorem toList_unlines (lines : List String) : (unlines lines).toList = lines.flatMap fun l => l.toList ++ ['\n'] := by
  unfold unlines
  simp [List.flatMap_map]

/-- The lines of a description end a comment if the description does. -/
theorem endsComment_description (docs : String) :
    EndsComment (unlines ((Text.lines docs).map fun line => trimmedLine (" * " ++ line))) ↔ EndsComment docs := by
  have hlines : (unlines ((Text.lines docs).map fun line => trimmedLine (" * " ++ line))).toList =
      (linesFrom [] docs.toList).flatMap fun l => trimEnd (" * ".toList ++ l) ++ ['\n'] := by
    rw [toList_unlines]
    unfold Text.lines trimmedLine
    simp [List.flatMap_map]
  have hlead : ∀ s : BlockScan, " * ".toList.foldl BlockScan.next s.reset = s.reset := by
    intro s
    cases s <;> rfl
  -- A scanner that stands in the comment and not behind a star sees in both texts what ends the comment.
  have hopen : ∀ cs, (cs.foldl BlockScan.next (.inside false)).IsOpen ↔ ¬occursIn ['*', '/'] cs := by
    intro cs
    rw [BlockScan.isOpen_foldl_iff]
    simp
  have hscan := BlockScan.resets.foldl_lines hlead [] docs.toList (.inside false)
  rw [← hlines, List.reverse_nil, List.nil_append] at hscan
  unfold EndsComment
  rw [← not_iff_not, ← hopen, ← hopen, ← BlockScan.isOpen_reset_iff (docs.toList.foldl _ _)]
  exact Iff.of_eq (congrArg BlockScan.IsOpen hscan)

/-! ## Blocks -/

/-- What stands between an opening and a closing line makes one comment with them if it does not end it. -/
theorem isComment_enclosed_iff (inner : String) :
    DocStyle.block.IsComment "" ["/**\n" ++ inner ++ " */"] ↔ ¬EndsComment inner := by
  have htext : ("\n".intercalate ["/**\n" ++ inner ++ " */"]).toList =
      ("/**\n" ++ inner ++ " ").toList ++ "*/".toList := by
    simp
  have hinner : EndsComment ("/**\n" ++ inner ++ " ") ↔ EndsComment inner :=
    endsComment_enclosed (by decide) (by decide) inner
  unfold DocStyle.IsComment
  dsimp only
  rw [htext]
  constructor
  · rintro ⟨-, -, honce⟩ hends
    obtain ⟨before, after, hsplit⟩ := (Text.occursIn_pair_iff_exists _).mp (hinner.mpr hends)
    have hnil := honce before (after ++ "*/".toList) (by rw [hsplit]; simp)
    simp at hnil
  · intro hends
    refine ⟨⟨('\n' :: inner.toList) ++ " */".toList, by simp⟩, List.suffix_append _ _, fun before after hsplit => ?_⟩
    -- Nothing closes the comment before its last line, so that it is still open there.
    have hopen : (("/**\n" ++ inner ++ " ").toList.foldl BlockScan.next (.inside false)).IsOpen := by
      rw [BlockScan.isOpen_foldl_iff]
      exact ⟨by simp, mt hinner.mp hends⟩
    obtain ⟨star, hstar⟩ := BlockScan.isOpen_iff.mp hopen
    have hclosed :
        (("/**\n" ++ inner ++ " ").toList ++ "*/".toList).foldl BlockScan.next (.inside false) = .closed := by
      rw [List.foldl_append, hstar]
      cases star <;> rfl
    rw [hsplit, List.append_assoc] at hclosed
    exact BlockScan.eq_nil_of_foldl_eq_closed hclosed

namespace JavaScript

/-- Without a description there are no lines of it. -/
theorem description_eq (docs : Option String) :
    (match docs with
      | some docs => unlines ((Text.lines docs).map fun line => trimmedLine (" * " ++ line))
      | none => "") = unlines ((Text.lines (docs.getD "")).map fun line => trimmedLine (" * " ++ line)) := by
  cases docs <;> rfl

/-- A block is an opening line, the description, the definition, and a closing line. -/
theorem declarationText_eq {d : Declaration} {text : String} (h : declarationText d = .ok text) :
    ∃ definition, text = "/**\n" ++
        unlines ((Text.lines (d.docs.getD "")).map fun line => trimmedLine (" * " ++ line)) ++ definition ++ " */" ∧
      definition.toList.head? ≠ some '/' ∧
      (EndsComment definition ↔ EndsComment d.name ∨ ∃ s ∈ d.body.spelledTexts, EndsComment s) := by
  obtain ⟨name, path, body, docs⟩ := d
  rw [← description_eq]
  cases body with
  | record fields =>
    cases h
    exact ⟨_, rfl, by simp, endsComment_recordDefinition name fields⟩
  | enumeration cases =>
    obtain ⟨definition, hdefinition, htext⟩ := bind_eq_ok_iff.mp h
    obtain ⟨kind, -, rfl⟩ := map_eq_ok_iff.mp hdefinition
    cases htext
    refine ⟨_, rfl, by simp, ?_⟩
    rw [endsComment_typedef, endsComment_values, or_comm]
  | «alias» type =>
    cases h
    refine ⟨_, rfl, by simp, ?_⟩
    rw [endsComment_typedef, endsComment_typeText, DeclBody.spelledTexts, or_comm]

/-- The block for a declaration is one comment, which only its last two characters end, if and only if no end of a
comment occurs in the description, in the name, or in a name or value of the body. -/
theorem declarationText_isComment_iff {d : Declaration} {text : String} (h : declarationText d = .ok text) :
    DocStyle.block.IsComment "" [text] ↔ ∀ s ∈ d.spelledTexts, ¬EndsComment s := by
  obtain ⟨definition, rfl, hhead, hdefinition⟩ := declarationText_eq h
  have hseam : ∀ description : String,
      EndsComment (description ++ definition) ↔ EndsComment description ∨ EndsComment definition := by
    intro description
    unfold EndsComment
    rw [String.toList_append, Text.occursIn_pair_append, or_iff_left (b := _ ∧ _) fun hboth => hhead hboth.2]
  have hdocs : EndsComment (d.docs.getD "") ↔ ∃ s ∈ d.docs.toList, EndsComment s := by
    cases d.docs with
    | none => exact iff_of_false (by decide) (by simp)
    | some docs => simp
  have htexts : (∃ s ∈ d.spelledTexts, EndsComment s) ↔
      (∃ s ∈ d.docs.toList, EndsComment s) ∨ EndsComment d.name ∨ ∃ s ∈ d.body.spelledTexts, EndsComment s := by
    unfold Declaration.spelledTexts
    simp only [List.mem_append, List.mem_cons, or_and_right, exists_or, exists_eq_left]
  have hinner : ∀ description : String,
      "/**\n" ++ description ++ definition = "/**\n" ++ (description ++ definition) := fun _ => String.append_assoc
  rw [hinner, isComment_enclosed_iff, hseam, endsComment_description, hdefinition, hdocs, ← htexts]
  simp only [not_exists, not_and]

/-- A record with a description, a property that is no identifier, and a type that is written as a star. -/
def globs : Declaration :=
  ⟨"Globs", "s", .record [⟨"all-of", false, .array .any⟩, ⟨"root", true, .string⟩], some "Where /* to look."⟩

theorem declarationText_isComment_globs :
    ∃ text, declarationText globs = .ok text ∧ DocStyle.block.IsComment "" [text] := by
  obtain ⟨text, htext⟩ : ∃ text, declarationText globs = .ok text := ⟨_, rfl⟩
  have hnames : globs.spelledTexts = ["Where /* to look.", "Globs", "all-of", "root"] := by
    simp [globs, Declaration.spelledTexts, DeclBody.spelledTexts, DataType.spelledNames]
  exact ⟨text, htext, (declarationText_isComment_iff htext).mpr (hnames ▸ by decide)⟩

/-- An enum with a pattern for its value. -/
def glob : Declaration :=
  ⟨"Glob", "s", .enumeration [⟨"all", .string "**/*.ts"⟩], none⟩

/-- The pattern closes the block before its end. -/
theorem declarationText_not_isComment :
    glob.docs = none ∧ ∃ text, declarationText glob = .ok text ∧ ¬DocStyle.block.IsComment "" [text] := by
  refine ⟨rfl, "/**\n * @typedef \x7b(\"**/*.ts\")\x7d Glob\n */", by decide, ?_⟩
  rintro ⟨-, -, honce⟩
  have hearly := honce "/**\n * @typedef \x7b(\"*".toList "*.ts\")\x7d Glob\n */".toList (by decide)
  cases hearly

end JavaScript

end ServiceStubs
