import ServiceStubs.Proofs.Target.DocComments
import ServiceStubs.Proofs.Text.Occurrence
import ServiceStubs.Proofs.Text.Trim
import ServiceStubs.Source.Documentation

/-!
# Descriptions come back

The description that is taken from a comment is put into comments of generated code, line by line and behind what
the lines are indented with. Read from there, it is the same again, unless the indentation has line feeds in it: these
are empty lines then, which only go away where they stand at the ends.

* `blockContent?` is what stands in a comment;
* `SettledLines` are lines as a description has them, and `exists_settledLines` says that every description does;
* `blockContent?_docLines` and `documentation?_blockInside` follow a description into a comment and out of it;
* `documentation?_docLines_iff` says which descriptions come back.
-/

namespace ServiceStubs.Source

open Text (isBlank trim trimEnd splitAt occursIn dropEnds linesFrom)

/-! ## What stands in a comment -/

/-- What stands behind the first place where a mark stands. -/
def behind? (mark : List Char) : List Char → Option (List Char)
  | [] => none
  | c :: cs => if mark.isPrefixOf (c :: cs) then some ((c :: cs).drop mark.length) else behind? mark cs

/-- What stands before the first place where a mark stands. -/
def before? (mark : List Char) : List Char → Option (List Char)
  | [] => none
  | c :: cs => if mark.isPrefixOf (c :: cs) then some [] else (before? mark cs).map (c :: ·)

/-- What stands between the marks of the first block comment in a text. -/
def blockContent? (text : String) : Option String :=
  ((behind? ['/', '*'] text.toList).bind (before? ['*', '/'])).map String.ofList

theorem behind?_of_not_mem {a b : Char} {front : List Char} (h : a ∉ front) (rest : List Char) :
    behind? [a, b] (front ++ a :: b :: rest) = some rest := by
  induction front with
  | nil => simp [behind?]
  | cons c front ih =>
    rw [List.mem_cons, not_or] at h
    rw [List.cons_append, behind?, ih h.2]
    simp [h.1]

theorem before?_of_not_occursIn {a b : Char} (hne : a ≠ b) {inside : List Char} (h : ¬occursIn [a, b] inside)
    (rest : List Char) : before? [a, b] (inside ++ a :: b :: rest) = some inside := by
  induction inside with
  | nil => simp [before?]
  | cons c inside ih =>
    rw [Text.occursIn_pair_cons, not_or] at h
    have hhead : c = a → (inside ++ a :: b :: rest).head? ≠ some b := by
      rintro hc
      cases inside with
      | nil => simpa using hne
      | cons d inside => exact fun hd => h.1 ⟨hc, hd⟩
    have hprefix : ¬[a, b] <+: c :: (inside ++ a :: b :: rest) := by
      intro hprefix
      obtain ⟨hc, back, hback⟩ := List.cons_prefix_cons.mp hprefix
      exact hhead hc.symm (by rw [← hback]; rfl)
    rw [List.cons_append, before?, ih h.2, if_neg (by rwa [List.isPrefixOf_iff_prefix])]
    rfl

/-! ## The lines of a comment -/

/-- A line of a comment without its leading star and the blanks around it. -/
def bareLine (line : List Char) : List Char :=
  (commentLine (String.ofList line)).toList

/-- Only what stands between the blanks around a line counts. -/
theorem bareLine_congr {line line' : List Char} (h : trim line = trim line') : bareLine line = bareLine line' := by
  unfold bareLine commentLine
  rw [String.toList_ofList, String.toList_ofList, h]

theorem bareLine_blank {line : List Char} (h : ∀ c ∈ line, isBlank c) : bareLine line = [] := by
  unfold bareLine commentLine
  rw [String.toList_ofList, Text.trim_of_blank h]
  rfl

/-- What stands behind a star is the line. -/
theorem bareLine_star {blanks : List Char} (h : ∀ c ∈ blanks, isBlank c) (rest : List Char) :
    bareLine (blanks ++ '*' :: rest) = trim rest := by
  have htrim : trim (blanks ++ '*' :: rest) = '*' :: trimEnd rest := by
    unfold trim Text.trimStart
    rw [List.dropWhile_append_of_pos h, List.dropWhile_cons_of_neg (by decide)]
    exact Text.trimEnd_append_cons (by decide) [] rest
  unfold bareLine commentLine
  rw [String.toList_ofList, htrim]
  exact String.toList_ofList.trans (Text.trim_trimEnd rest)

/-- The text in a comment, in terms of its parts between line feeds. -/
theorem commentText?_eq (comment : String) :
    commentText? comment =
      match dropEnds List.isEmpty ((splitAt '\n' comment.toList).map bareLine) with
      | [] => none
      | ls => some (String.ofList (['\n'].intercalate ls)) := by
  obtain ⟨front, last, hsplit, hlines⟩ := Text.linesFrom_eq List.not_mem_nil comment.toList
  rw [List.reverse_nil, List.nil_append] at hsplit
  have hreturn : ∀ l, bareLine (Text.dropReturn l) = bareLine l := fun l => bareLine_congr (Text.trim_dropReturn l)
  -- An empty part at the end is no line, and no line of the documentation either.
  have hbare : dropEnds List.isEmpty ((linesFrom [] comment.toList).map bareLine) =
      dropEnds List.isEmpty ((splitAt '\n' comment.toList).map bareLine) := by
    rw [hsplit, hlines, List.map_append, List.map_append, List.map_map]
    simp only [Function.comp_def, hreturn]
    split
    · rename_i hempty
      obtain rfl := List.isEmpty_iff.mp hempty
      rw [List.map_nil, List.append_nil, Text.dropEnds_append_right]
      exact List.forall_mem_singleton.mpr rfl
    · rfl
  have hempty : (fun s : String => decide (s = "")) ∘ String.ofList = List.isEmpty := by
    funext l
    cases l <;> simp
  have hcomment : dropEmptyEnds ((Text.lines comment).map commentLine) =
      (dropEnds List.isEmpty ((splitAt '\n' comment.toList).map bareLine)).map String.ofList := by
    have hlist : (Text.lines comment).map commentLine =
        ((linesFrom [] comment.toList).map bareLine).map String.ofList := by
      unfold Text.lines
      rw [List.map_map, List.map_map]
      exact List.map_congr_left fun l _ => String.ofList_toList.symm
    rw [hlist, ← hbare, ← hempty, ← Text.dropEnds_map]
    rfl
  unfold commentText?
  rw [hcomment]
  cases dropEnds List.isEmpty ((splitAt '\n' comment.toList).map bareLine) with
  | nil => rfl
  | cons first rest =>
    refine congrArg some (String.toList_inj.mp ?_)
    rw [String.toList_intercalate, String.toList_ofList]
    simp

/-! ## The lines of a description -/

/-- Lines as a description has them: trimmed, and not empty at the ends. -/
structure SettledLines (ls : List (List Char)) : Prop where
  ne_nil : ls ≠ []
  unbroken : ∀ l ∈ ls, '\n' ∉ l
  trimmed : ∀ l ∈ ls, trim l = l
  ends : dropEnds List.isEmpty ls = ls

/-- A line that is read from a comment is trimmed, and a part of the comment. -/
theorem bareLine_spec (line : List Char) : trim (bareLine line) = bareLine line ∧ bareLine line <:+: line := by
  have htrim : ∀ cs, trim cs <:+: cs := Text.dropEnds_infix
  unfold bareLine commentLine
  rw [String.toList_ofList]
  split
  · rename_i rest hline
    rw [String.toList_ofList]
    have hrest : rest <:+: line :=
      (List.suffix_cons '*' rest).isInfix.trans (hline ▸ htrim line)
    exact ⟨Text.dropEnds_dropEnds rest, (htrim rest).trans hrest⟩
  · rw [String.toList_ofList]
    exact ⟨Text.dropEnds_dropEnds _, (htrim _).trans (htrim line)⟩

/-- What is read from a comment is a description, and every line of it stands in the comment. -/
theorem exists_settledLines {raw docs : String} (h : commentText? raw = some docs) :
    ∃ ls, SettledLines ls ∧ docs.toList = ['\n'].intercalate ls ∧ ∀ l ∈ ls, l <:+: raw.toList := by
  rw [commentText?_eq] at h
  split at h
  · cases h
  · rename_i hne
    cases h
    have hmem : ∀ l ∈ dropEnds List.isEmpty ((splitAt '\n' raw.toList).map bareLine),
        trim l = l ∧ ∃ part ∈ splitAt '\n' raw.toList, l <:+: part := by
      intro l hl
      obtain ⟨part, hpart, rfl⟩ := List.mem_map.mp ((Text.dropEnds_infix _).subset hl)
      exact ⟨(bareLine_spec part).1, part, hpart, (bareLine_spec part).2⟩
    refine ⟨_, ⟨hne, fun l hl => ?_, fun l hl => (hmem l hl).1, Text.dropEnds_dropEnds _⟩, String.toList_ofList,
      fun l hl => ?_⟩
    · obtain ⟨-, part, hpart, hwithin⟩ := hmem l hl
      exact fun hbreak => Text.not_mem_of_mem_splitAt hpart (hwithin.subset hbreak)
    · obtain ⟨-, part, hpart, hwithin⟩ := hmem l hl
      exact hwithin.trans (Text.infix_of_mem_splitAt hpart)

/-- The lines of a description are those of its text. -/
theorem SettledLines.linesFrom_eq {ls : List (List Char)} (h : SettledLines ls) :
    linesFrom [] (['\n'].intercalate ls) = ls := by
  refine Text.linesFrom_intercalate (fun l hl => ⟨h.unbroken l hl, h.trimmed l hl⟩) fun l hl => ?_
  have hlast := ((Text.dropEnds_eq_self_iff ls).mp h.ends).2 l hl
  simpa using hlast

/-- A description says something. -/
theorem SettledLines.not_blank {ls : List (List Char)} (h : SettledLines ls) :
    ¬(['\n'].intercalate ls).all isBlank := by
  intro hblank
  obtain ⟨first, rest, rfl⟩ := List.exists_cons_of_ne_nil h.ne_nil
  have hfirst : trim first = [] := by
    refine Text.trim_of_blank fun c hc => List.all_eq_true.mp hblank c ?_
    exact (Text.infix_intercalate List.mem_cons_self).subset hc
  have hempty := ((Text.dropEnds_eq_self_iff _).mp h.ends).1 first rfl
  rw [h.trimmed first List.mem_cons_self] at hfirst
  simp [hfirst] at hempty

/-! ## Into a comment -/

/-- What stands in the comment for a description. -/
def blockInside (indent : List Char) (ls : List (List Char)) : List Char :=
  '*' :: '\n' :: (ls.flatMap fun l => indent ++ [' ', '*'] ++ trimEnd (' ' :: l) ++ ['\n']) ++ indent ++ [' ']

theorem blockContent?_docLines {indent docs : String} {ls : List (List Char)} (hls : SettledLines ls)
    (hdocs : docs.toList = ['\n'].intercalate ls) (hend : ¬occursIn ['*', '/'] docs.toList)
    (hindent : ∀ c ∈ indent.toList, isBlank c) :
    blockContent? ("\n".intercalate (docLines (some docs) .block indent)) =
      some (String.ofList (blockInside indent.toList ls)) := by
  have hblank : ¬docs.toList.all isBlank := hdocs ▸ hls.not_blank
  have hescape : (DocStyle.block.escape docs).toList = docs.toList :=
    String.toList_ofList.trans (Text.replaceFrom_of_not_occursIn hend)
  have hline : ∀ l, trimEnd ((indent ++ DocStyle.block.lead).toList ++ l) =
      indent.toList ++ [' ', '*'] ++ trimEnd (' ' :: l) := by
    intro l
    have hlead : (indent ++ DocStyle.block.lead).toList ++ l = (indent.toList ++ [' ']) ++ '*' :: ' ' :: l := by
      simp [DocStyle.lead]
    rw [hlead, Text.trimEnd_append_cons (by decide)]
    simp
  have htext : ("\n".intercalate (docLines (some docs) .block indent)).toList =
      indent.toList ++ '/' :: '*' :: (blockInside indent.toList ls ++ ['*', '/']) := by
    rw [toList_docLines .block rfl rfl hblank, hescape, hdocs, hls.linesFrom_eq]
    simp only [hline]
    unfold blockInside
    simp
  -- An end of the comment in what stands inside would be a second one.
  have hinside : ¬occursIn ['*', '/'] (blockInside indent.toList ls) := by
    intro hoccurs
    obtain ⟨before, after, hsplit⟩ := (Text.occursIn_pair_iff_exists _).mp hoccurs
    obtain ⟨-, -, honce⟩ := isComment_block hindent hblank
    have hnil := honce (indent.toList ++ ['/', '*'] ++ before) (after ++ ['*', '/']) (by rw [htext, hsplit]; simp)
    simp at hnil
  have hslash : '/' ∉ indent.toList := fun hmem => ne_of_isBlank (hindent _ hmem) (by decide) rfl
  unfold blockContent?
  rw [htext, behind?_of_not_mem hslash, Option.bind_some, before?_of_not_occursIn (by decide) hinside]
  rfl

/-! ## Out of a comment -/

/-- The lines of a description, with empty lines before each of them. -/
def spread (count : ℕ) (ls : List (List Char)) : List (List Char) :=
  ls.flatMap fun l => List.replicate count [] ++ [l]

/-- Blanks are empty lines. -/
theorem bareLine_of_mem_splitAt {blanks : List Char} (h : ∀ c ∈ blanks, isBlank c) :
    ∀ part ∈ splitAt '\n' blanks, bareLine part = [] :=
  fun _ hpart => bareLine_blank fun c hc => h c ((Text.infix_of_mem_splitAt hpart).subset hc)

theorem isBlank_of_mem_append_space {blanks : List Char} (h : ∀ c ∈ blanks, isBlank c) :
    ∀ c ∈ blanks ++ [' '], isBlank c := by
  rw [List.forall_mem_append, List.forall_mem_singleton]
  exact ⟨h, by decide⟩

/-- The line that is written for a line of the description, and the lines of the indentation before it. -/
theorem bareLines_line {indent l : List Char} (hindent : ∀ c ∈ indent, isBlank c) (hl : '\n' ∉ l) (htrim : trim l = l) :
    (splitAt '\n' (indent ++ [' ', '*'] ++ trimEnd (' ' :: l))).map bareLine =
      List.replicate (indent.count '\n') [] ++ [l] := by
  have hunbroken : '\n' ∉ [' ', '*'] ++ trimEnd (' ' :: l) := by
    have hend : '\n' ∉ trimEnd (' ' :: l) := by
      rw [Text.mem_trimEnd_space (by decide)]
      exact fun hmem => hl ((Text.trimEnd_prefix l).subset hmem)
    simp [hend]
  -- Only the last part of the indentation stands before the star, and the others are lines of their own.
  have hblank : (splitAt '\n' indent).dropLast.map bareLine = List.replicate (indent.count '\n') [] := by
    refine List.eq_replicate_iff.mpr ⟨?_, ?_⟩
    · rw [List.length_map, List.length_dropLast, Text.length_splitAt, Nat.add_sub_cancel]
    · rw [List.forall_mem_map]
      exact fun part hmem => bareLine_of_mem_splitAt hindent part (List.dropLast_subset _ hmem)
  have hlast : bareLine ((splitAt '\n' indent).getLastD [] ++ ([' ', '*'] ++ trimEnd (' ' :: l))) = l := by
    have hindented : ∀ c ∈ (splitAt '\n' indent).getLastD [], isBlank c := by
      intro c hc
      rcases List.mem_cons.mp List.getLastD_mem_cons with hnil | hpart
      · rw [hnil] at hc
        cases hc
      · exact hindent c ((Text.infix_of_mem_splitAt hpart).subset hc)
    have hspace : trim (' ' :: l) = trim l := Text.dropEnds_append_left (List.forall_mem_singleton.mpr (by decide)) l
    calc bareLine ((splitAt '\n' indent).getLastD [] ++ ([' ', '*'] ++ trimEnd (' ' :: l)))
        = bareLine (((splitAt '\n' indent).getLastD [] ++ [' ']) ++ '*' :: trimEnd (' ' :: l)) := by simp
      _ = l := by rw [bareLine_star (isBlank_of_mem_append_space hindented), Text.trim_trimEnd, hspace, htrim]
  rw [List.append_assoc, Text.splitAt_append_of_not_mem hunbroken, List.map_append, hblank, List.map_singleton, hlast]

/-- Read from the comment, a description comes back with empty lines in it. -/
theorem bareLines_blockInside {indent : List Char} {ls : List (List Char)} (hindent : ∀ c ∈ indent, isBlank c)
    (hls : SettledLines ls) :
    ∃ back, (∀ l ∈ back, l = []) ∧
      (splitAt '\n' (blockInside indent ls)).map bareLine = [] :: spread (indent.count '\n') ls ++ back := by
  have hinside : blockInside indent ls =
      ['*'] ++ '\n' :: ((ls.flatMap fun l => indent ++ [' ', '*'] ++ trimEnd (' ' :: l) ++ ['\n']) ++
        (indent ++ [' '])) := by
    simp [blockInside]
  have hspread : (ls.flatMap fun l => splitAt '\n' (indent ++ [' ', '*'] ++ trimEnd (' ' :: l))).map bareLine =
      spread (indent.count '\n') ls := by
    rw [List.map_flatMap]
    exact List.flatMap_congr fun l hl => bareLines_line hindent (hls.unbroken l hl) (hls.trimmed l hl)
  refine ⟨(splitAt '\n' (indent ++ [' '])).map bareLine, ?_, ?_⟩
  · rw [List.forall_mem_map]
    exact bareLine_of_mem_splitAt (isBlank_of_mem_append_space hindent)
  · rw [hinside, Text.splitAt_append_sep, Text.splitAt_lines, List.map_append, List.map_append, hspread]
    rfl

/-- Empty lines stay unless they stand at the ends. -/
theorem dropEnds_spread {first : List Char} {rest : List (List Char)} (hls : SettledLines (first :: rest)) (count : ℕ) :
    dropEnds List.isEmpty (spread count (first :: rest)) = first :: spread count rest := by
  have hends := (Text.dropEnds_eq_self_iff _).mp hls.ends
  have hfront : ∀ l ∈ List.replicate count ([] : List Char), l.isEmpty := by
    intro l hl
    rw [List.eq_of_mem_replicate hl]
    rfl
  have hlast : (first :: spread count rest).getLast? = (first :: rest).getLast? := by
    rcases List.eq_nil_or_concat' rest with rfl | ⟨init, last, rfl⟩
    · rfl
    · rw [← List.cons_append, List.getLast?_concat]
      simp [spread, List.getLast?_cons, List.getLast?_append]
  have hspread : spread count (first :: rest) = List.replicate count [] ++ (first :: spread count rest) := by
    simp [spread]
  rw [hspread, Text.dropEnds_append_left hfront, Text.dropEnds_eq_self_iff, hlast]
  exact hends

/-- The lines of a description come back as they were if there is only one or nothing stands between them. -/
theorem spread_eq_self_iff (count : ℕ) (ls : List (List Char)) : spread count ls = ls ↔ count = 0 ∨ ls = [] := by
  have hlength : (spread count ls).length = ls.length * (count + 1) := by
    simp [spread]
  constructor
  · -- If nothing is added to a list with lines in it, then nothing is added to any of them.
    intro h
    rw [h] at hlength
    rcases Nat.eq_zero_or_pos ls.length with hzero | hpos
    · exact .inr (List.length_eq_zero_iff.mp hzero)
    · refine .inl ?_
      have hcount : count + 1 = 1 := Nat.eq_of_mul_eq_mul_left hpos (by rw [← hlength, Nat.mul_one])
      omega
  · rintro (rfl | rfl)
    · exact List.flatMap_singleton' ls
    · rfl

theorem spread_unbroken {ls : List (List Char)} (h : ∀ l ∈ ls, '\n' ∉ l) (count : ℕ) :
    ∀ l ∈ spread count ls, '\n' ∉ l := by
  intro l hl
  obtain ⟨l', hl', hmem⟩ := List.mem_flatMap.mp hl
  rcases List.mem_append.mp hmem with hmem | hmem
  · rw [List.eq_of_mem_replicate hmem]
    exact List.not_mem_nil
  · rw [List.mem_singleton.mp hmem]
    exact h l' hl'

/-- A description without line feeds is a single line. -/
theorem SettledLines.not_mem_iff {first : List Char} {rest : List (List Char)} (hls : SettledLines (first :: rest)) :
    '\n' ∉ ['\n'].intercalate (first :: rest) ↔ rest = [] := by
  cases rest with
  | nil => exact iff_of_true (by simpa using hls.unbroken) rfl
  | cons second rest => exact iff_of_false (by simp [List.intercalate_cons_cons]) (by simp)

/-- What is read from the comment for a description. -/
theorem documentation?_blockInside {indent first : List Char} {rest : List (List Char)}
    (hindent : ∀ c ∈ indent, isBlank c) (hls : SettledLines (first :: rest)) :
    documentation? (String.ofList (blockInside indent (first :: rest))) =
      some (String.ofList (['\n'].intercalate (first :: spread (indent.count '\n') rest))) := by
  obtain ⟨back, hback, hlines⟩ := bareLines_blockInside hindent hls
  have hhead : (String.ofList (blockInside indent (first :: rest))).toList.head? = some '*' := by
    rw [String.toList_ofList]
    rfl
  have hempty : ∀ l ∈ back, l.isEmpty := fun l hl => by rw [hback l hl]; rfl
  unfold documentation?
  rw [if_pos hhead, commentText?_eq, String.toList_ofList, hlines, Text.dropEnds_append_right hempty,
    ← List.singleton_append, Text.dropEnds_append_left (by decide), dropEnds_spread hls]

/-! ## The way around -/

/-- A description that is read from a comment and put into a comment of generated code is read from there as it was,
unless it has several lines and there are line feeds in front of each. -/
theorem documentation?_docLines_iff {raw docs indent : String} (hraw : documentation? raw = some docs)
    (hend : ¬Text.contains raw "*/") (hindent : ∀ c ∈ indent.toList, isBlank c) :
    (blockContent? ("\n".intercalate (docLines (some docs) .block indent))).bind documentation? = some docs ↔
      '\n' ∉ indent.toList ∨ '\n' ∉ docs.toList := by
  have hcomment : commentText? raw = some docs := by
    unfold documentation? at hraw
    split at hraw
    · exact hraw
    · cases hraw
  obtain ⟨ls, hls, hdocs, hwithin⟩ := exists_settledLines hcomment
  have hnowhere : ¬occursIn ['*', '/'] docs.toList := by
    rw [hdocs, Text.occursIn_pair_intercalate (by simp) (by decide) (by decide)]
    rintro ⟨l, hl, hoccurs⟩
    exact hend (Text.occursIn_pair_of_infix (hwithin l hl) hoccurs)
  obtain ⟨first, rest, rfl⟩ := List.exists_cons_of_ne_nil hls.ne_nil
  have hunbroken := List.forall_mem_cons.mp hls.unbroken
  -- Line feeds of the indentation are read as empty lines, so that the lines of the text are spread out.
  have hspread : ∀ l ∈ first :: spread (indent.toList.count '\n') rest, '\n' ∉ l :=
    List.forall_mem_cons.mpr ⟨hunbroken.1, spread_unbroken hunbroken.2 _⟩
  rw [blockContent?_docLines hls hdocs hnowhere hindent, Option.bind_some, documentation?_blockInside hindent hls,
    Option.some.injEq, ← String.toList_inj, String.toList_ofList, hdocs,
    Text.intercalate_inj (by simp) (by simp) hspread hls.unbroken, List.cons.injEq, and_iff_right rfl,
    spread_eq_self_iff, List.count_eq_zero, hls.not_mem_iff]

/-- A description with an empty line, a list and a second star, in a comment within an indented block. -/
theorem documentation?_docLines_list :
    ∃ docs, documentation? "*\n * Adds up.\n *\n * - first\n ** second\n " = some docs ∧
      (blockContent? ("\n".intercalate (docLines (some docs) .block "\t"))).bind documentation? = some docs := by
  have hraw : documentation? "*\n * Adds up.\n *\n * - first\n ** second\n " =
      some "Adds up.\n\n- first\n* second" := by decide
  refine ⟨_, hraw, (documentation?_docLines_iff hraw (by decide) ?_).mpr (.inl (by decide))⟩
  exact List.all_eq_true.mp (by decide)

/-- Line feeds that lines are indented with are empty lines between those of the description. -/
theorem documentation?_docLines_ne :
    documentation? "* a\n b" = some "a\nb" ∧ ¬Text.contains "* a\n b" "*/" ∧ (∀ c ∈ "\n".toList, isBlank c) ∧
      (blockContent? ("\n".intercalate (docLines (some "a\nb") .block "\n"))).bind documentation? ≠ some "a\nb" :=
  ⟨by decide, by decide, List.all_eq_true.mp (by decide), by decide⟩

end ServiceStubs.Source
