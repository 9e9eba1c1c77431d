import ServiceStubs.Proofs.Text.Blank
import ServiceStubs.Target.DocComment

/-!
# Comments end where they should

A description must not end the comment that it is put into, whatever it says. A block comment, where these do not
nest, always closes with its last line. A docstring may be closed by quotation marks that get past the escaping, and
a comment that ends with its line by a carriage return, which is left in the line.

* `DocStyle.IsComment` says that lines are one comment of a style, and nothing else;
* `DocStyle.Carries` says which descriptions make one;
* `docLines_isComment_iff` says that there are no others;
* `docLines_not_isComment` are descriptions that leave their comments.
-/

namespace ServiceStubs

open Text (Resets isBlank trimEnd linesFrom replaceFrom)

/-! ## Scanners of comments -/

/-- Where a scanner is that looks for the end of a block comment. -/
inductive BlockScan where
  /-- In the comment, and perhaps behind a star. -/
  | inside (star : Bool)
  | closed
  | beyond

def BlockScan.next : BlockScan → Char → BlockScan
  | .inside star, c => if star ∧ c = '/' then .closed else .inside (c = '*')
  | .closed, _ => .beyond
  | .beyond, _ => .beyond

/-- Where the scanner is behind a blank. -/
def BlockScan.reset : BlockScan → BlockScan
  | .inside _ => .inside false
  | .closed => .beyond
  | .beyond => .beyond

/-- Where a scanner of Python is that looks for the end of a string between triple quotation marks. -/
inductive DocstringScan where
  /-- In the string, behind a number of quotation marks. -/
  | inside (quotes : Nat)
  /-- Behind a backslash. -/
  | escaping
  | closed
  | beyond

def DocstringScan.next : DocstringScan → Char → DocstringScan
  | .inside quotes, c =>
    if c = '\\' then .escaping
    else if c = '"' then if quotes < 2 then .inside (quotes + 1) else .closed
    else .inside 0
  | .escaping, _ => .inside 0
  | .closed, _ => .beyond
  | .beyond, _ => .beyond

def DocstringScan.reset : DocstringScan → DocstringScan
  | .inside _ => .inside 0
  | .escaping => .inside 0
  | .closed => .beyond
  | .beyond => .beyond

/-! ## Comments and descriptions -/

/-- What every line of a comment that ends with its line begins with. -/
def DocStyle.marker : DocStyle → String
  | .tripleSlash => "///"
  | .doubleSlash => "//"
  | .hash => "#"
  | .block | .docstring => ""

/-- The lines are one comment of the style, and nothing else. -/
def DocStyle.IsComment (style : DocStyle) (indent : String) (lines : List String) : Prop :=
  let text := ("\n".intercalate lines).toList
  match style with
  | .block =>
    -- It is closed by what it ends with, and nowhere else.
    (indent ++ "/**").toList <+: text ∧ "*/".toList <:+ text ∧
      ∀ before after, text = before ++ "*/".toList ++ after → after = []
  | .docstring =>
    -- The last quotation mark of the last line closes it.
    lines.getLast? = some (indent ++ "\"\"\"") ∧
      ∃ body, text = (indent ++ "\"\"\"").toList ++ body ∧
        body.foldl DocstringScan.next (.inside 0) = .closed
  | .tripleSlash | .doubleSlash | .hash =>
    lines ≠ [] ∧ ∀ line ∈ lines, (indent ++ style.marker).toList <+: line.toList ∧
      '\n' ∉ line.toList ∧ '\r' ∉ line.toList

/-- How many quotation marks follow each other, when there have been `count` before: one number for each character
that is none, and one for the end. -/
def quoteRuns (count : Nat) : List Char → List Nat
  | [] => [count]
  | c :: rest => if c = '"' then quoteRuns (count + 1) rest else count :: quoteRuns 0 rest

/-- A comment of the style can hold the description. -/
def DocStyle.Carries (style : DocStyle) (indent docs : String) : Prop :=
  match style with
  | .block => True
  | .docstring => ∀ n ∈ quoteRuns 0 docs.toList, n < 3 ∨ 3 ∣ n
  | .tripleSlash | .doubleSlash | .hash =>
    ('\n' ∉ indent.toList ∧ '\r' ∉ indent.toList) ∧
      ∀ line ∈ Text.splitAt '\n' docs.toList, '\r' ∉ trimEnd line

/-! ## The layout -/

theorem toList_intercalate_lines (opening closing : String) (lines : List String) :
    ("\n".intercalate (opening :: lines ++ [closing])).toList =
      opening.toList ++ '\n' :: (lines.flatMap fun l => l.toList ++ ['\n']) ++ closing.toList := by
  induction lines generalizing opening with
  | nil => simp [String.intercalate_cons_cons]
  | cons line lines ih =>
    rw [List.cons_append, String.intercalate_cons_of_ne_nil (by simp), String.toList_append, String.toList_append,
      ih line, List.flatMap_cons]
    simp

theorem docLines_of_not_blank {docs : String} (hdocs : ¬docs.toList.all isBlank) (style : DocStyle)
    (indent : String) :
    docLines (some docs) style indent =
      (style.opening?.map (indent ++ ·)).toList ++
        (Text.lines (style.escape docs)).map (fun line => trimmedLine (indent ++ style.lead ++ line)) ++
        (style.closing?.map (indent ++ ·)).toList := by
  have hmeaningful : meaningful? (some docs) = some docs := by
    unfold meaningful?
    simp [hdocs]
  unfold docLines
  rw [hmeaningful]

/-- A comment between an opening and a closing line. -/
theorem toList_docLines (style : DocStyle) {opening closing : String} (hopening : style.opening? = some opening)
    (hclosing : style.closing? = some closing) {docs : String} (hdocs : ¬docs.toList.all isBlank) (indent : String) :
    ("\n".intercalate (docLines (some docs) style indent)).toList =
      (indent ++ opening).toList ++ ('\n' ::
        ((linesFrom [] (style.escape docs).toList).flatMap fun l =>
          trimEnd ((indent ++ style.lead).toList ++ l) ++ ['\n']) ++ indent.toList) ++ closing.toList := by
  rw [docLines_of_not_blank hdocs, hopening, hclosing, Option.map_some, Option.toList_some, Option.map_some,
    Option.toList_some, List.singleton_append, toList_intercalate_lines]
  unfold Text.lines trimmedLine
  simp [List.flatMap_map]

/-- A scanner that starts again at blanks sees the description, and then the closing line. -/
theorem foldl_layout {σ : Type} {step : σ → Char → σ} {reset : σ → σ} (h : Resets step reset)
    {lead indent : List Char} (hlead : ∀ s, lead.foldl step (reset s) = reset s) (hindent : ∀ c ∈ indent, isBlank c)
    (text : List Char) (s : σ) :
    ('\n' :: ((linesFrom [] text).flatMap fun l => trimEnd (lead ++ l) ++ ['\n']) ++ indent).foldl step s =
      reset (text.foldl step (reset s)) := by
  rw [List.foldl_append, List.foldl_cons, h.blank _ (by decide), h.foldl_lines hlead, List.reverse_nil,
    List.nil_append, h.foldl_blanks hindent]

theorem ne_of_isBlank {c d : Char} (h : isBlank c) (hd : isBlank d = false) : c ≠ d := by
  rintro rfl
  rw [h] at hd
  cases hd

/-! ## Block comments -/

namespace BlockScan

theorem resets : Resets next reset := by
  refine ⟨fun s c hc => ?_, fun s => by cases s <;> rfl⟩
  have hslash : c ≠ '/' := ne_of_isBlank hc (by decide)
  have hstar : c ≠ '*' := ne_of_isBlank hc (by decide)
  cases s with
  | inside star => simp [next, reset, hslash, hstar]
  | closed => rfl
  | beyond => rfl

theorem foldl_beyond (cs : List Char) : cs.foldl next .beyond = .beyond := by
  induction cs with
  | nil => rfl
  | cons c cs ih => exact ih

/-- A comment that is closed by the end of a text is not closed before. -/
theorem eq_nil_of_foldl_eq_closed {before after : List Char} {s : BlockScan}
    (h : (before ++ '*' :: '/' :: after).foldl next s = .closed) : after = [] := by
  rw [List.foldl_append, List.foldl_cons, List.foldl_cons] at h
  have hbeyond : ¬after.foldl next .beyond = .closed := by
    rw [foldl_beyond]
    exact fun h => by cases h
  -- Only inside of the comment a star and a slash close it, and whatever comes after leaves it for good.
  cases hbefore : before.foldl next s with
  | inside star =>
    have hclosed : ((inside star).next '*').next '/' = .closed := by simp [next]
    rw [hbefore, hclosed] at h
    cases after with
    | nil => rfl
    | cons c after =>
      have hnext : (c :: after).foldl next .closed = .beyond := foldl_beyond after
      rw [hnext] at h
      cases h
  | closed =>
    rw [hbefore] at h
    exact absurd h hbeyond
  | beyond =>
    rw [hbefore] at h
    exact absurd h hbeyond

/-- No escaped text closes a comment. The `skip` characters that are passed over belong to a replaced `*/`. -/
theorem foldl_escaped (skip : ℕ) (cs : List Char) (star : Bool)
    (h : star = true → (cs.drop skip).head? ≠ some '/') :
    ∃ star', (replaceFrom ['*', '/'] ['*', '\\', '/'] skip cs).foldl next (.inside star) = .inside star' := by
  induction cs generalizing skip star with
  | nil => exact ⟨star, rfl⟩
  | cons c cs ih =>
    cases skip with
    | succ skip => exact ih skip star h
    | zero =>
      rw [replaceFrom]
      split
      · -- A slash behind a backslash closes nothing.
        have hescaped : ['*', '\\', '/'].foldl next (.inside star) = .inside false := by
          cases star <;> rfl
        rw [List.foldl_append, hescaped]
        exact ih 1 false (by simp)
      · rename_i hnot
        have hopen : (inside star).next c = .inside (c = '*') := by
          refine if_neg ?_
          rintro ⟨hstar, rfl⟩
          exact h hstar rfl
        rw [List.foldl_cons, hopen]
        refine ih 0 _ fun hc => ?_
        obtain rfl : c = '*' := by simpa using hc
        rintro hslash
        obtain ⟨rest, rfl⟩ := List.head?_eq_some_iff.mp hslash
        exact hnot (by simp)

end BlockScan

/-- A block comment is closed by its last line only. -/
theorem isComment_block {indent : String} (hindent : ∀ c ∈ indent.toList, isBlank c) {docs : String}
    (hdocs : ¬docs.toList.all isBlank) :
    DocStyle.block.IsComment indent (docLines (some docs) .block indent) := by
  have htext := toList_docLines .block rfl rfl hdocs indent
  have hlead : ∀ s : BlockScan, (indent ++ DocStyle.block.lead).toList.foldl BlockScan.next s.reset = s.reset := by
    intro s
    rw [String.toList_append, List.foldl_append, BlockScan.resets.foldl_blanks hindent]
    cases s <;> rfl
  have hescape : (DocStyle.block.escape docs).toList = replaceFrom ['*', '/'] ['*', '\\', '/'] 0 docs.toList :=
    String.toList_ofList
  obtain ⟨star, hopen⟩ := BlockScan.foldl_escaped 0 docs.toList false (by simp)
  -- The opening line ends in a star, every other line begins anew, and the last one closes the comment.
  have hclosed : ("\n".intercalate (docLines (some docs) .block indent)).toList.foldl BlockScan.next (.inside false) =
      .closed := by
    have hopening : (indent ++ "/**").toList.foldl BlockScan.next (.inside false) = .inside true := by
      have hblanks := BlockScan.resets.foldl_blanks hindent (.inside false)
      rw [String.toList_append, List.foldl_append]
      exact congrArg ("/**".toList.foldl BlockScan.next) hblanks
    rw [htext, List.foldl_append, List.foldl_append, hopening,
      foldl_layout BlockScan.resets hlead hindent, hescape]
    exact congrArg (fun s => " */".toList.foldl BlockScan.next s.reset) hopen
  refine ⟨?_, ?_, ?_⟩
  · rw [htext, List.append_assoc]
    exact List.prefix_append _ _
  · rw [htext]
    exact List.suffix_append_of_suffix (by decide)
  · intro before after hsplit
    rw [hsplit, List.append_assoc] at hclosed
    exact BlockScan.eq_nil_of_foldl_eq_closed hclosed

/-! ## Docstrings -/

/-- A description with its backslashes doubled. -/
def doubled (docs : List Char) : List Char :=
  docs.flatMap fun c => if c = '\\' then ['\\', '\\'] else [c]

/-- A text in which triple quotation marks are escaped. -/
def quotesEscaped (cs : List Char) : List Char :=
  replaceFrom ['"', '"', '"'] ['\\', '"', '"', '"'] 0 cs

theorem toList_escape_docstring (docs : String) :
    (DocStyle.docstring.escape docs).toList = quotesEscaped (doubled docs.toList) := by
  have hdoubled : (Text.replaceAll "\\" "\\\\" docs).toList = doubled docs.toList :=
    String.toList_ofList.trans (Text.replaceFrom_singleton _ _ _)
  unfold DocStyle.escape
  dsimp only
  rw [Text.replaceAll, String.toList_ofList, hdoubled]
  rfl

theorem quotesEscaped_cons {c : Char} {cs : List Char} (h : ¬['"', '"', '"'] <+: c :: cs) :
    quotesEscaped (c :: cs) = c :: quotesEscaped cs := by
  have hnot : (['"', '"', '"'].isPrefixOf (c :: cs)) = false := by
    rwa [← Bool.not_eq_true, List.isPrefixOf_iff_prefix]
  unfold quotesEscaped
  rw [replaceFrom, hnot]
  rfl

theorem quotesEscaped_cons_of_ne {c : Char} (h : c ≠ '"') (cs : List Char) :
    quotesEscaped (c :: cs) = c :: quotesEscaped cs :=
  quotesEscaped_cons fun hprefix => h (List.cons_prefix_cons.mp hprefix).1.symm

/-- Less than three quotation marks are not escaped. -/
theorem quotesEscaped_few {tail : List Char} (htail : tail.head? ≠ some '"') {n : ℕ} (hn : n < 3) :
    quotesEscaped (List.replicate n '"' ++ tail) = List.replicate n '"' ++ quotesEscaped tail := by
  have hfew : ∀ n, n < 3 → ¬['"', '"', '"'] <+: List.replicate n '"' ++ tail := by
    rintro n hn ⟨rest, h⟩
    have htriple : ['"', '"', '"'] = List.replicate n '"' ++ '"' :: List.replicate (2 - n) '"' := by
      have hthree : n + (2 - n + 1) = 3 := by omega
      rw [← List.replicate_succ, List.replicate_append_replicate, hthree]
      rfl
    rw [htriple, List.append_assoc] at h
    rw [← List.append_cancel_left h] at htail
    exact htail rfl
  induction n with
  | zero => rfl
  | succ n ih =>
    have hnot := hfew (n + 1) hn
    rw [List.replicate_succ, List.cons_append] at hnot ⊢
    rw [quotesEscaped_cons hnot, ih (by omega), List.cons_append]

namespace DocstringScan

theorem resets : Resets next reset := by
  refine ⟨fun s c hc => ?_, fun s => by cases s <;> rfl⟩
  have hquote : c ≠ '"' := ne_of_isBlank hc (by decide)
  have hbackslash : c ≠ '\\' := ne_of_isBlank hc (by decide)
  cases s with
  | inside quotes => simp [next, reset, hquote, hbackslash]
  | escaping => rfl
  | closed => rfl
  | beyond => rfl

/-- The string goes on. -/
def IsOpen : DocstringScan → Prop
  | .inside _ | .escaping => True
  | .closed | .beyond => False

theorem not_isOpen_foldl {s : DocstringScan} (h : ¬s.IsOpen) (cs : List Char) : ¬(cs.foldl next s).IsOpen := by
  induction cs generalizing s with
  | nil => exact h
  | cons c cs ih =>
    refine ih ?_
    cases s with
    | inside quotes => exact absurd trivial h
    | escaping => exact absurd trivial h
    | closed => exact id
    | beyond => exact id

/-- Quotation marks on a line of their own close the string if it goes on until there. -/
theorem foldl_closing_iff (s : DocstringScan) : "\"\"\"".toList.foldl next s.reset = .closed ↔ s.IsOpen := by
  cases s with
  | inside quotes => exact iff_of_true rfl trivial
  | escaping => exact iff_of_true rfl trivial
  | closed => exact iff_of_false (fun h => by cases h) id
  | beyond => exact iff_of_false (fun h => by cases h) id

/-- The string goes on behind an escaped text that starts behind some quotation marks. -/
def Passes (quotes : ℕ) (cs : List Char) : Prop :=
  ((quotesEscaped cs).foldl next (.inside quotes)).IsOpen

/-- Quotation marks do not count for what comes behind another character. -/
theorem passes_iff_of_head {tail : List Char} (htail : tail.head? ≠ some '"') (quotes : ℕ) :
    Passes quotes tail ↔ Passes 0 tail := by
  unfold Passes
  cases tail with
  | nil => exact Iff.rfl
  | cons c tail =>
    have hc : c ≠ '"' := by simpa using htail
    have hnext : (inside quotes).next c = (inside 0).next c := by simp [next, hc]
    rw [quotesEscaped_cons_of_ne hc, List.foldl_cons, List.foldl_cons, hnext]

/-- Behind an escaped triple, the string goes on if only escaped triples follow. -/
theorem passes_triples {tail : List Char} (htail : tail.head? ≠ some '"') (n : ℕ) :
    Passes 2 (List.replicate n '"' ++ tail) ↔ 3 ∣ n ∧ Passes 0 tail := by
  match n with
  | 0 =>
    rw [List.replicate_zero, List.nil_append, passes_iff_of_head htail]
    simp
  | 1 | 2 =>
    rw [Passes, quotesEscaped_few htail (by decide), List.foldl_append]
    refine iff_of_false (not_isOpen_foldl ?_ _) fun h => absurd h.1 (by decide)
    exact id
  | n + 3 =>
    have hescaped : Passes 2 (List.replicate (n + 3) '"' ++ tail) ↔ Passes 2 (List.replicate n '"' ++ tail) := Iff.rfl
    rw [hescaped, passes_triples htail n, Nat.dvd_add_left (Nat.dvd_refl 3)]

/-- Quotation marks that follow each other close the string unless they are few or can be cut into triples. -/
theorem passes_quotes {tail : List Char} (htail : tail.head? ≠ some '"') (n : ℕ) :
    Passes 0 (List.replicate n '"' ++ tail) ↔ (n < 3 ∨ 3 ∣ n) ∧ Passes 0 tail := by
  match n with
  | 0 => simp
  | 1 | 2 =>
    rw [Passes, quotesEscaped_few htail (by decide), List.foldl_append]
    exact (passes_iff_of_head htail _).trans (by simp)
  | n + 3 =>
    have hescaped : Passes 0 (List.replicate (n + 3) '"' ++ tail) ↔ Passes 2 (List.replicate n '"' ++ tail) := Iff.rfl
    have hmany : ¬n + 3 < 3 := by omega
    rw [hescaped, passes_triples htail n, Nat.dvd_add_left (Nat.dvd_refl 3), or_iff_right hmany]

/-- The string goes on behind a description with its backslashes doubled, if no run of quotation marks ends it. -/
theorem passes_doubled (count : ℕ) (docs : List Char) :
    Passes 0 (List.replicate count '"' ++ doubled docs) ↔ ∀ n ∈ quoteRuns count docs, n < 3 ∨ 3 ∣ n := by
  -- The quotation marks that have been read in a row are counted until something else comes.
  induction docs generalizing count with
  | nil =>
    rw [quoteRuns, List.forall_mem_singleton]
    exact (passes_quotes (by simp [doubled]) count).trans (and_iff_left trivial)
  | cons c docs ih =>
    unfold quoteRuns
    split
    · rename_i hquote
      subst hquote
      rw [← ih, List.replicate_succ', List.append_assoc]
      rfl
    · rename_i hquote
      have hhead : (doubled (c :: docs)).head? ≠ some '"' := by
        unfold doubled
        rw [List.flatMap_cons]
        split
        · simp
        · simpa using hquote
      have htail : Passes 0 (doubled (c :: docs)) ↔ Passes 0 (doubled docs) := by
        by_cases hbackslash : c = '\\'
        · subst hbackslash
          exact Iff.rfl
        · have hcons : doubled (c :: docs) = c :: doubled docs := by simp [doubled, hbackslash]
          have hnext : (inside 0).next c = .inside 0 := by simp [next, hbackslash, hquote]
          unfold Passes
          rw [hcons, quotesEscaped_cons_of_ne hquote, List.foldl_cons, hnext]
      rw [passes_quotes hhead, htail, List.forall_mem_cons, ← ih 0]
      rfl

end DocstringScan

/-- A docstring is closed by its last line only, unless there is a run of quotation marks in it that closes it. -/
theorem isComment_docstring_iff {indent : String} (hindent : ∀ c ∈ indent.toList, isBlank c) {docs : String}
    (hdocs : ¬docs.toList.all isBlank) :
    DocStyle.docstring.IsComment indent (docLines (some docs) .docstring indent) ↔
      ∀ n ∈ quoteRuns 0 docs.toList, n < 3 ∨ 3 ∣ n := by
  have htext := toList_docLines .docstring rfl rfl hdocs indent
  have hlead : ∀ s : DocstringScan,
      (indent ++ DocStyle.docstring.lead).toList.foldl DocstringScan.next s.reset = s.reset := by
    intro s
    rw [String.toList_append, List.foldl_append, DocstringScan.resets.foldl_blanks hindent]
    rfl
  have hlast : (docLines (some docs) .docstring indent).getLast? = some (indent ++ "\"\"\"") := by
    rw [docLines_of_not_blank hdocs]
    exact List.getLast?_concat
  rw [List.append_assoc] at htext
  rw [← DocstringScan.passes_doubled 0, List.replicate_zero, List.nil_append, DocstringScan.Passes,
    ← toList_escape_docstring, ← DocstringScan.foldl_closing_iff]
  -- Between the first and the last line the scanner goes over the description as over one text.
  have hscan := foldl_layout DocstringScan.resets hlead hindent (DocStyle.docstring.escape docs).toList (.inside 0)
  unfold DocStyle.IsComment
  dsimp only
  rw [htext]
  constructor
  · rintro ⟨-, body, hbody, hclosed⟩
    rw [← List.append_cancel_left hbody, List.foldl_append, hscan] at hclosed
    exact hclosed
  · intro hclosed
    refine ⟨hlast, _, rfl, ?_⟩
    rw [List.foldl_append, hscan]
    exact hclosed

/-! ## Comments that end with their lines -/

/-- A line without the space behind the marker if there is nothing else behind it. -/
theorem trimEnd_lead {style : DocStyle} (hstyle : style.opening? = none) (indent : String) (line : List Char) :
    trimEnd ((indent ++ style.lead).toList ++ line) = (indent ++ style.marker).toList ++ trimEnd (' ' :: line) := by
  have hmarker : ∃ front c, ¬isBlank c ∧ style.marker.toList = front ++ [c] ∧
      style.lead.toList = front ++ [c, ' '] := by
    cases style with
    | block => cases hstyle
    | docstring => cases hstyle
    | tripleSlash => exact ⟨['/', '/'], '/', by decide, rfl, rfl⟩
    | doubleSlash => exact ⟨['/'], '/', by decide, rfl, rfl⟩
    | hash => exact ⟨[], '#', by decide, rfl, rfl⟩
  obtain ⟨front, c, hc, hmarker, hlead⟩ := hmarker
  have hline : (indent ++ style.lead).toList ++ line = (indent.toList ++ front) ++ c :: ' ' :: line := by
    simp [hlead]
  rw [hline, Text.trimEnd_append_cons hc, String.toList_append, hmarker]
  simp

theorem marker_unbroken (style : DocStyle) : '\n' ∉ style.marker.toList ∧ '\r' ∉ style.marker.toList := by
  cases style <;> decide

/-- Every line stays a line of the comment, unless there is a line break left in it. -/
theorem isComment_lines_iff {style : DocStyle} (hopening : style.opening? = none) (hclosing : style.closing? = none)
    (hescape : ∀ text, style.escape text = text) {indent docs : String} (hdocs : ¬docs.toList.all isBlank) :
    (docLines (some docs) style indent ≠ [] ∧
        ∀ line ∈ docLines (some docs) style indent, (indent ++ style.marker).toList <+: line.toList ∧
          '\n' ∉ line.toList ∧ '\r' ∉ line.toList) ↔
      ('\n' ∉ indent.toList ∧ '\r' ∉ indent.toList) ∧
        ∀ line ∈ Text.splitAt '\n' docs.toList, '\r' ∉ trimEnd line := by
  have hlines : docLines (some docs) style indent =
      (linesFrom [] docs.toList).map fun l => String.ofList (trimEnd ((indent ++ style.lead).toList ++ l)) := by
    rw [docLines_of_not_blank hdocs, hopening, hclosing, hescape]
    unfold Text.lines trimmedLine
    simp
  have hne : linesFrom [] docs.toList ≠ [] := by
    refine Text.linesFrom_ne_nil (.inr ?_)
    rintro hnil
    rw [hnil] at hdocs
    exact hdocs rfl
  have hline : ∀ l, (indent ++ style.marker).toList <+: (indent ++ style.marker).toList ++ trimEnd (' ' :: l) ∧
      '\n' ∉ (indent ++ style.marker).toList ++ trimEnd (' ' :: l) ∧
      '\r' ∉ (indent ++ style.marker).toList ++ trimEnd (' ' :: l) ↔
      ('\n' ∉ indent.toList ∧ '\r' ∉ indent.toList) ∧ '\n' ∉ trimEnd l ∧ '\r' ∉ trimEnd l := by
    intro l
    have hmarker := marker_unbroken style
    rw [and_iff_right (List.prefix_append _ _), String.toList_append]
    simp only [List.mem_append, not_or, Text.mem_trimEnd_space (c := '\n') (by decide),
      Text.mem_trimEnd_space (c := '\r') (by decide)]
    tauto
  -- The parts between line feeds have none, so that carriage returns are what is left to ask for.
  have hparts : (∀ l ∈ linesFrom [] docs.toList, '\n' ∉ trimEnd l ∧ '\r' ∉ trimEnd l) ↔
      ∀ part ∈ Text.splitAt '\n' docs.toList, '\r' ∉ trimEnd part := by
    rw [Text.forall_linesFrom_iff (P := fun l => '\n' ∉ l ∧ '\r' ∉ l) (by decide) (by decide)]
    refine forall₂_congr fun part hpart => and_iff_right fun hmem => ?_
    exact Text.not_mem_of_mem_splitAt hpart ((Text.trimEnd_prefix part).subset hmem)
  rw [hlines, List.forall_mem_map]
  simp only [String.toList_ofList, trimEnd_lead hopening, hline]
  constructor
  · rintro ⟨-, h⟩
    obtain ⟨first, hfirst⟩ := List.exists_mem_of_ne_nil _ hne
    exact ⟨(h first hfirst).1, hparts.mp fun l hl => (h l hl).2⟩
  · rintro ⟨hunbroken, h⟩
    exact ⟨by simpa using hne, fun l hl => ⟨hunbroken, hparts.mpr h l hl⟩⟩

/-- A description makes one comment, and nothing else, if the style can hold it. -/
theorem docLines_isComment_iff {indent : String} (hindent : ∀ c ∈ indent.toList, isBlank c) (style : DocStyle)
    (docs : String) :
    (docs.toList.all isBlank → docLines (some docs) style indent = []) ∧
      (¬docs.toList.all isBlank →
        (style.IsComment indent (docLines (some docs) style indent) ↔ style.Carries indent docs)) := by
  refine ⟨fun hblank => ?_, fun hdocs => ?_⟩
  · have hmeaningful : meaningful? (some docs) = none := by
      unfold meaningful?
      simpa using hblank
    unfold docLines
    rw [hmeaningful]
  · cases style with
    | block => exact iff_of_true (isComment_block hindent hdocs) trivial
    | docstring => exact isComment_docstring_iff hindent hdocs
    | tripleSlash => exact isComment_lines_iff rfl rfl (fun _ => rfl) hdocs
    | doubleSlash => exact isComment_lines_iff rfl rfl (fun _ => rfl) hdocs
    | hash => exact isComment_lines_iff rfl rfl (fun _ => rfl) hdocs

/-- A description with triple quotation marks, indented. -/
theorem docLines_isComment_quoted :
    (∀ c ∈ "    ".toList, isBlank c) ∧
      DocStyle.docstring.IsComment "    " (docLines (some "Says \"\"\"hi\"\"\".") .docstring "    ") := by
  have hindent : ∀ c ∈ "    ".toList, isBlank c := List.all_eq_true.mp (by decide)
  have hcarries : DocStyle.docstring.Carries "    " "Says \"\"\"hi\"\"\"." := by
    unfold DocStyle.Carries
    decide
  exact ⟨hindent, ((docLines_isComment_iff hindent .docstring _).2 (by decide)).mpr hcarries⟩

/-- The fourth of four quotation marks closes a docstring before its last line, and a carriage return ends a line. -/
theorem docLines_not_isComment :
    ¬DocStyle.docstring.IsComment "" (docLines (some "\"\"\"\"") .docstring "") ∧
      ¬DocStyle.hash.IsComment "" (docLines (some "a\rb") .hash "") := by
  constructor
  · rw [isComment_docstring_iff (by simp) (by decide)]
    decide
  · rintro ⟨-, hlines⟩
    have hmem : "# a\rb" ∈ docLines (some "a\rb") .hash "" := by decide
    exact absurd (hlines _ hmem).2.2 (by decide)

end ServiceStubs
