import ServiceStubs.Proofs.Resolution.ReferenceKeys
import ServiceStubs.Proofs.Target.RelativeImports

/-!
# Names in references to modules

Python refers to a module by the segments of its path with dots between them, and each of them has to be an
identifier. The segments come from directories and files. What stands for the characters that no identifier has is
a character that all identifiers can have, but a segment can also be a keyword, or begin with a digit.

* `dottedNames_modelPath` says which segments a reference has;
* `isIdentifier_safeSegment_iff` says when the name for a segment is an identifier;
* `dottedNames_valid_iff` concludes when all names of a reference are, for every source file and importing file.
-/

namespace ServiceStubs

/-! ## Segments of paths -/

/-- What stands for a segment in the path for a module. -/
def safeSegment (segment : String) : String :=
  String.ofList (segment.toList.map safeChar)

theorem safeModulePath_eq_safeSegment (modulePath : String) : safeModulePath modulePath = safeSegment modulePath :=
  rfl

theorem splitOn_safeSegment (path : String) :
    Text.splitOn '/' (safeSegment path) = (Text.splitOn '/' path).map safeSegment := by
  unfold Text.splitOn safeSegment
  rw [String.toList_ofList, Text.splitAt_map safeChar_eq_slash_iff, List.map_map, List.map_map]
  refine List.map_congr_left fun part _ => ?_
  rw [Function.comp_apply, Function.comp_apply, String.toList_ofList]

theorem isWordChar_safeChar {c : Char} (h : c ≠ '/') : Text.isWordChar (safeChar c) := by
  unfold safeChar
  split
  · rename_i hc
    exact hc.resolve_left h
  · decide

theorem safeChar_of_isWordChar {c : Char} (h : Text.isWordChar c) : safeChar c = c :=
  if_pos (.inr h)

/-- A character stays, or gives way to `_`. -/
theorem safeChar_eq_or (c : Char) : safeChar c = c ∨ safeChar c = '_' := by
  unfold safeChar
  split
  · exact .inl rfl
  · exact .inr rfl

theorem safeSegment_eq_self {segment : String} (h : ∀ c ∈ segment.toList, safeChar c = c) :
    safeSegment segment = segment := by
  unfold safeSegment
  rw [List.map_congr_left h, List.map_id', String.ofList_toList]

namespace Python

/-! ## Identifiers -/

/-- The words that the grammar of the language claims for itself. -/
def keywords : List String := [
  "False", "None", "True", "and", "as", "assert", "async", "await", "break", "class",
  "continue", "def", "del", "elif", "else", "except", "finally", "for", "from", "global", "if",
  "import", "in", "is", "lambda", "nonlocal", "not", "or", "pass", "raise", "return", "try",
  "while", "with", "yield"]

/-- What can stand between the dots of a reference. Which characters are digits is left open: those of ASCII, or
the decimal digits of every script. -/
structure IsIdentifier (digit : Char → Prop) (name : String) : Prop where
  nonempty : name ≠ ""
  wordChars : ∀ c ∈ name.toList, Text.isWordChar c
  initial : ∀ c ∈ name.toList.head?, ¬digit c
  not_keyword : name ∉ keywords

theorem isNumeric_of_isDigit (c : Char) (h : c.isDigit) : Text.isNumeric c := by
  have hlow : c.toNat < 128 := by
    unfold Char.isDigit at h
    rw [Bool.and_eq_true, decide_eq_true_eq, decide_eq_true_eq] at h
    exact Nat.lt_of_le_of_lt (UInt32.le_iff_toNat_le.mp h.2) (by decide)
  unfold Text.isNumeric
  rwa [if_pos hlow]

variable {digit : Char → Prop}

/-- No character becomes a digit or ceases to be one. -/
theorem digit_safeChar_iff (hdigit : ∀ c, digit c → Text.isNumeric c) (c : Char) :
    digit (safeChar c) ↔ digit c := by
  have hunderscore : ¬digit '_' := fun h => absurd (hdigit '_' h) (by decide)
  by_cases hword : Text.isWordChar c
  · rw [safeChar_of_isWordChar hword]
  · have hnot : ¬digit c := by
      intro h
      refine hword ?_
      unfold Text.isWordChar Text.isAlphanumeric
      rw [hdigit c h, Bool.or_true, Bool.true_or]
    rcases safeChar_eq_or c with heq | heq
    · rw [heq]
    · rw [heq]
      exact iff_of_false hunderscore hnot

/-- Keywords have no `_`, so that none comes out of something else. -/
theorem safeSegment_mem_keywords_iff (segment : String) : safeSegment segment ∈ keywords ↔ segment ∈ keywords := by
  have hplain : ∀ word ∈ keywords, '_' ∉ word.toList ∧ word.toList.all Text.isWordChar := by decide
  constructor
  · intro h
    have hself : safeSegment segment = segment := by
      refine safeSegment_eq_self fun c hc => (safeChar_eq_or c).resolve_right fun hunderscore => ?_
      refine (hplain _ h).1 ?_
      unfold safeSegment
      rw [String.toList_ofList, ← hunderscore]
      exact List.mem_map_of_mem hc
    rwa [hself] at h
  · intro h
    have hword := List.all_eq_true.mp (hplain _ h).2
    rwa [safeSegment_eq_self fun c hc => safeChar_of_isWordChar (hword c hc)]

/-- The name for a segment is an identifier unless the segment is empty, begins with a digit, or is a keyword. -/
theorem isIdentifier_safeSegment_iff (hdigit : ∀ c, digit c → Text.isNumeric c) {segment : String}
    (hslash : '/' ∉ segment.toList) : IsIdentifier digit (safeSegment segment) ↔
      segment ≠ "" ∧ (∀ c ∈ segment.toList.head?, ¬digit c) ∧ segment ∉ keywords := by
  have hempty : safeSegment segment = "" ↔ segment = "" := by
    unfold safeSegment
    rw [← String.toList_eq_nil_iff, String.toList_ofList, List.map_eq_nil_iff, String.toList_eq_nil_iff]
  have hinitial : (∀ c ∈ (safeSegment segment).toList.head?, ¬digit c) ↔
      ∀ c ∈ segment.toList.head?, ¬digit c := by
    unfold safeSegment
    rw [String.toList_ofList, List.head?_map]
    simp [digit_safeChar_iff hdigit]
  constructor
  · intro h
    exact ⟨mt hempty.mpr h.nonempty, hinitial.mp h.initial,
      mt (safeSegment_mem_keywords_iff segment).mpr h.not_keyword⟩
  · rintro ⟨hne, hfirst, hkeyword⟩
    refine ⟨mt hempty.mp hne, ?_, hinitial.mpr hfirst, mt (safeSegment_mem_keywords_iff segment).mp hkeyword⟩
    intro c hc
    unfold safeSegment at hc
    rw [String.toList_ofList] at hc
    obtain ⟨original, horiginal, rfl⟩ := List.mem_map.mp hc
    -- Everything but a slash is made a word character, and a segment has no slash.
    refine isWordChar_safeChar ?_
    rintro rfl
    exact hslash horiginal

/-! ## References -/

/-- How many directories a file has in common with another one, from the top. -/
def sharedDirectories (source target : String) : Nat :=
  commonLength (directorySegments source) (directorySegments target)

/-- The dots in front of a reference: one for the package of the file, and one for each package to climb. -/
def climbingDots (source target : String) : Nat :=
  1 + (directorySegments source).length - sharedDirectories source target

/-- The names in a reference, which stand between the dots that come after the climbing ones. -/
def dottedNames (source target : String) : List String :=
  Text.splitOn '.' (String.ofList ((importModule source target).toList.drop (climbingDots source target)))

theorem length_dots (count : Nat) : (String.join (List.replicate count ".")).toList.length = count := by
  induction count with
  | zero => rfl
  | succ count ih =>
    rw [List.replicate_succ, String.join_cons, String.toList_append, List.length_append, ih, Nat.add_comm]
    rfl

theorem directorySegments_modelPath (modulePath : String) :
    directorySegments (emitter.modelPath modulePath) = (directorySegments modulePath).map safeSegment := by
  have hsplit : Text.splitOn '/' (emitter.modelPath modulePath) = _ := splitOn_safeModulePath (by decide)
  unfold directorySegments
  rw [hsplit, List.dropLast_concat]
  unfold Text.splitOn
  rw [← List.map_dropLast, List.map_map]
  refine List.map_congr_left fun part _ => ?_
  unfold safeSegment
  rw [Function.comp_apply, String.toList_ofList]

/-- The segments of a module that come after the shared directories are the names in a reference to it. -/
theorem dottedNames_modelPath (source modulePath : String) :
    dottedNames source (emitter.modelPath modulePath) =
        ((Text.splitOn '/' modulePath).drop (sharedDirectories source (emitter.modelPath modulePath))).map safeSegment ∧
      importModule source (emitter.modelPath modulePath) =
        String.join (List.replicate (climbingDots source (emitter.modelPath modulePath)) ".") ++
          ".".intercalate (dottedNames source (emitter.modelPath modulePath)) := by
  have hdirectories := directorySegments_modelPath modulePath
  have hsegments : Text.splitOn '/' ((Text.stripEnd? (emitter.modelPath modulePath) ".py").getD
      (emitter.modelPath modulePath)) = (Text.splitOn '/' modulePath).map safeSegment := by
    have hstem : Text.stripEnd? (emitter.modelPath modulePath) ".py" = some (safeModulePath modulePath) :=
      Text.stripEnd?_append_self _ _
    rw [hstem, Option.getD_some, safeModulePath_eq_safeSegment, splitOn_safeSegment]
  have hshared : sharedDirectories source (emitter.modelPath modulePath) < (Text.splitOn '/' modulePath).length := by
    have hle := (commonLength_le_length (directorySegments source)
      (directorySegments (emitter.modelPath modulePath))).2
    have hsplit := congrArg List.length (Source.splitOn_eq_concat modulePath)
    rw [hdirectories, List.length_map] at hle
    rw [List.length_append, List.length_singleton] at hsplit
    unfold sharedDirectories
    rw [hdirectories]
    omega
  have hreference : importModule source (emitter.modelPath modulePath) =
      String.join (List.replicate (climbingDots source (emitter.modelPath modulePath)) ".") ++
        ".".intercalate (((Text.splitOn '/' modulePath).drop
          (sharedDirectories source (emitter.modelPath modulePath))).map safeSegment) := by
    unfold importModule climbingDots sharedDirectories
    dsimp only
    rw [hsegments, hdirectories, ← List.map_drop]
    unfold directorySegments
    rw [← List.map_dropLast]
  have hnames : dottedNames source (emitter.modelPath modulePath) =
      ((Text.splitOn '/' modulePath).drop (sharedDirectories source (emitter.modelPath modulePath))).map
        safeSegment := by
    unfold dottedNames
    rw [hreference, String.toList_append, List.drop_left' (length_dots _), String.ofList_toList]
    -- There is a name left to write, and no dot in any of them.
    refine splitOn_dotted ?_ ?_
    · rw [Ne, List.map_eq_nil_iff, List.drop_eq_nil_iff]
      omega
    · intro name hname
      obtain ⟨segment, -, rfl⟩ := List.mem_map.mp hname
      unfold safeSegment
      rw [String.toList_ofList]
      intro hdot
      obtain ⟨c, -, hc⟩ := List.mem_map.mp hdot
      exact safeChar_ne_dot c hc
  exact ⟨hnames, by rw [hnames, hreference]⟩

/-- In every file, the reference to the module of a source file is some dots and then names with dots between them.
All of the names are identifiers if and only if the directories that the two files do not share, and the name of
the source file without its extension, are not empty, do not begin with a digit, and are no keywords. What stands
for climbs always is an identifier. -/
theorem dottedNames_valid_iff (hdigit : ∀ c, digit c → Text.isNumeric c) (source path : String) :
    importModule source (emitter.modelPath (Source.modulePathOf path)) =
        String.join (List.replicate (climbingDots source (emitter.modelPath (Source.modulePathOf path))) ".") ++
          ".".intercalate (dottedNames source (emitter.modelPath (Source.modulePathOf path))) ∧
      ((∀ name ∈ dottedNames source (emitter.modelPath (Source.modulePathOf path)), IsIdentifier digit name) ↔
        ∀ segment ∈ ((Source.heading path).2 ++ [Source.bareName (Source.fileName path)]).drop
            (sharedDirectories source (emitter.modelPath (Source.modulePathOf path)) - (Source.heading path).1),
          segment ≠ "" ∧ (∀ c ∈ segment.toList.head?, ¬digit c) ∧ segment ∉ keywords) := by
  refine ⟨(dottedNames_modelPath source (Source.modulePathOf path)).2, ?_⟩
  generalize hshared : sharedDirectories source (emitter.modelPath (Source.modulePathOf path)) = shared
  have hunderscore : ¬digit '_' := fun h => absurd (hdigit '_' h) (by decide)
  -- Segments that stand for climbs are the same in every path, and they are identifiers.
  have hclimb : ∀ segment ∈ (List.replicate (Source.heading path).1 Source.parentSegment).drop shared,
      segment ≠ "" ∧ (∀ c ∈ segment.toList.head?, ¬digit c) ∧ segment ∉ keywords := by
    intro segment hsegment
    rw [List.eq_of_mem_replicate (List.mem_of_mem_drop hsegment)]
    refine ⟨by decide, ?_, by decide⟩
    intro c hc
    cases hc
    exact hunderscore
  have hslash : ∀ segment ∈ (Text.splitOn '/' (Source.modulePathOf path)).drop shared, '/' ∉ segment.toList :=
    fun segment hsegment => Text.not_mem_of_mem_splitOn (List.mem_of_mem_drop hsegment)
  have hidentifiers : (∀ name ∈ dottedNames source (emitter.modelPath (Source.modulePathOf path)),
      IsIdentifier digit name) ↔ ∀ segment ∈ (Text.splitOn '/' (Source.modulePathOf path)).drop shared,
        segment ≠ "" ∧ (∀ c ∈ segment.toList.head?, ¬digit c) ∧ segment ∉ keywords := by
    rw [(dottedNames_modelPath source (Source.modulePathOf path)).1, List.forall_mem_map, hshared]
    exact forall₂_congr fun segment hsegment => isIdentifier_safeSegment_iff hdigit (hslash segment hsegment)
  rw [hidentifiers, Source.splitOn_modulePathOf, List.append_assoc, List.drop_append, List.length_replicate,
    List.forall_mem_append]
  exact ⟨fun h => h.2, fun h => ⟨hclimb, h⟩⟩

/-- From a directory of clients to a declaration file in another directory. -/
theorem dottedNames_valid_models :
    importModule "api/greeter.py" (emitter.modelPath (Source.modulePathOf "src/models/user.d.ts")) =
        "..src.models.user" ∧
      (∀ name ∈ dottedNames "api/greeter.py" (emitter.modelPath (Source.modulePathOf "src/models/user.d.ts")),
        IsIdentifier (fun c => c.isDigit) name) := by
  refine ⟨by decide, (dottedNames_valid_iff isNumeric_of_isDigit _ _).2.mpr ?_⟩
  have hvalid : ∀ segment ∈ ["src", "models", "user"], segment ≠ "" ∧
      segment.toList.head?.all (fun c => !c.isDigit) ∧ segment ∉ keywords := by decide
  intro segment hsegment
  obtain ⟨hempty, hinitial, hkeyword⟩ := hvalid segment hsegment
  refine ⟨hempty, fun c hc hdigit => ?_, hkeyword⟩
  rw [Option.mem_def.mp hc, Option.all_some, hdigit] at hinitial
  cases hinitial

/-- A file whose name begins with a digit and one whose name is a keyword cannot be imported, though their
characters all can stand in identifiers. -/
theorem dottedNames_not_identifiers :
    importModule "s.py" (emitter.modelPath (Source.modulePathOf "2fa.ts")) = ".2fa" ∧
      dottedNames "s.py" (emitter.modelPath (Source.modulePathOf "2fa.ts")) = ["2fa"] ∧
      dottedNames "s.py" (emitter.modelPath (Source.modulePathOf "lib/class.ts")) = ["lib", "class"] ∧
      ¬IsIdentifier (fun c => c.isDigit) "2fa" ∧ ¬IsIdentifier (fun c => c.isDigit) "class" := by
  refine ⟨by decide, by decide, by decide, ?_, ?_⟩
  · intro h
    exact h.initial '2' rfl (by decide)
  · intro h
    exact h.not_keyword (by decide)

end Python

end ServiceStubs
