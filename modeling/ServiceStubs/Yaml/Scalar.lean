import ServiceStubs.Number.Literal
import ServiceStubs.Yaml.Place

/-!
# Scalars

The three ways to write a value: plainly, in quotes, and as a block of lines. Line breaks inside of plain
and quoted values are folded: a single one stands for a space, and of several the first is dropped.

Main definitions:

* `plainScalar?`, `quotedScalar?` and `blockScalar?` read a value and the place after it.
-/

namespace ServiceStubs.Yaml

/-- A value that has been read, and the place after it. -/
structure ScalarRead where
  text : List Char
  after : Place
  /-- Whether a line ended after the value, so that a key can follow. -/
  endedLine : Bool

/-! ## Blanks inside of values -/

/-- The blanks and line breaks between two parts of a value. -/
structure Gap where
  /-- Blanks before the first line break. -/
  blanks : List Char
  /-- The first line break. -/
  first : Option Char
  /-- The other line breaks. -/
  more : List Char

/-- The gap without anything in it. -/
def Gap.none : Gap := ⟨[], Option.none, []⟩

/-- What a gap stands for in a value. -/
def Gap.text (g : Gap) : List Char :=
  match g.first with
  | Option.none => g.blanks
  | some '\n' => if g.more.isEmpty then [' '] else g.more
  | some c => c :: g.more

/-- Reads the blanks and line breaks at a place. Where a tab stands in the indentation, left of `column`,
there is no result. The first argument bounds the number of characters. -/
def takeGap? (column : Int) : Nat → Gap → Place → Option (Gap × Place)
  | 0, _, _ => Option.none
  | bound + 1, gap, p =>
    match p.rest with
    | c :: _ =>
      if isBlank c then
        if gap.first.isNone then takeGap? column bound { gap with blanks := gap.blanks ++ [c] } (p.drop 1)
        else if c = '\t' ∧ (p.column : Int) < column then Option.none
        else takeGap? column bound gap (p.drop 1)
      else
        match takeBreak? p.rest with
        | some (b, _) =>
          let gap := match gap.first with
            | Option.none => { gap with blanks := [], first := some b }
            | some _ => { gap with more := gap.more ++ [b] }
          takeGap? column bound gap p.skipBreak
        | Option.none => some (gap, p)
    | [] => some (gap, p)

/-! ## Plain values -/

/-- Marks that end a plain value inside of brackets. -/
def isFlowMark (c : Char) : Bool :=
  c == ',' || c == '[' || c == ']' || c == '\x7b' || c == '\x7d'

/-- How many characters of a text belong to a plain value up to the next blank; none inside of brackets
if a colon stands in front of a mark. -/
def plainRun? (inFlow : Bool) : List Char → Option Nat
  | [] => some 0
  | c :: rest =>
    if isBlank c || isBreak c then some 0
    else if inFlow && c == ':' && rest.head?.any (fun d => isFlowMark d || d == '?') then Option.none
    else if c == ':' && atGap rest then some 0
    else if inFlow && isFlowMark c then some 0
    else (plainRun? inFlow rest).map (· + 1)

/-- The parts of a plain value from a place on, after the text so far and the gap that follows it. -/
def plainParts? (inFlow : Bool) (indent : Int) :
    Nat → List Char → Gap → Place → Option ScalarRead
  | 0, _, _, _ => Option.none
  | bound + 1, text, gap, p =>
    let ended : ScalarRead := ⟨text, p, gap.first.isSome⟩
    if p.column = 0 ∧ atDocumentMark p.rest then some ended
    else if p.rest.head? = some '#' then some ended
    else
      match plainRun? inFlow p.rest with
      | Option.none => Option.none
      | some 0 => some ended
      | some count =>
        let text := text ++ gap.text ++ p.rest.take count
        match takeGap? indent p.rest.length.succ .none (p.drop count) with
        | Option.none => Option.none
        | some (gap, after) =>
          if after.index = (p.drop count).index then some ⟨text, after, false⟩
          -- The next line is not indented far enough: it belongs to what is around the value.
          else if !inFlow && (after.column : Int) < indent then some ⟨text, after, gap.first.isSome⟩
          else plainParts? inFlow indent bound text gap after

/-- The plain value at a place. Outside of brackets its lines are indented by more than `indent`. -/
def plainScalar? (inFlow : Bool) (indent : Int) (p : Place) : Option ScalarRead :=
  plainParts? inFlow (indent + 1) p.rest.length.succ [] .none p

/-! ## Quoted values -/

/-- The character with a number, if there is one. -/
def character? (n : Nat) : Option Char :=
  if h : n.isValidChar then some (Char.ofNatAux n h) else Option.none

/-- The character that hexadecimal digits in front of a text name. -/
def hexEscape? (count : Nat) (text : List Char) : Option Char :=
  let digits := text.take count
  if digits.length = count ∧ digits.all (NumericLiteral.isDigitOf 16) then
    character? (NumericLiteral.valueOf 16 digits)
  else Option.none

/-- The character that an escape stands for, and how many characters the escape has after the
backslash. -/
def escape? : List Char → Option (Char × Nat)
  | [] => Option.none
  | c :: rest =>
    let one (n : Nat) : Option (Char × Nat) := (character? n).map (·, 1)
    match c with
    | '0' => one 0
    | 'a' => one 7
    | 'b' => one 8
    | 't' | '\t' => one 9
    | 'n' => one 10
    | 'v' => one 11
    | 'f' => one 12
    | 'r' => one 13
    | 'e' => one 27
    | ' ' | '"' | '/' | '\\' => some (c, 1)
    | 'N' => one 0x85
    | '_' => one 0xA0
    | 'L' => one 0x2028
    | 'P' => one 0x2029
    | 'x' => (hexEscape? 2 rest).map (·, 3)
    | 'u' => (hexEscape? 4 rest).map (·, 5)
    | 'U' => (hexEscape? 8 rest).map (·, 9)
    | _ => Option.none

/-- The characters of a quoted value from a place on, after the text so far. -/
def quotedParts? (quote : Char) : Nat → List Char → Place → Option ScalarRead
  | 0, _, _ => Option.none
  | bound + 1, text, p =>
    if p.column = 0 ∧ atDocumentMark p.rest then Option.none
    else
      match p.rest with
      | [] => Option.none
      | c :: rest =>
        if quote = '\'' ∧ c = '\'' ∧ rest.head? = some '\'' then
          quotedParts? quote bound (text ++ ['\'']) (p.drop 2)
        else if c = quote then some ⟨text, p.drop 1, false⟩
        else if quote = '"' ∧ c = '\\' then
          -- An escaped break joins two lines without a blank: only the empty lines after it count.
          if rest.head?.any isBreak then
            match takeGap? 0 p.rest.length.succ ⟨[], some ' ', []⟩ (p.drop 1).skipBreak with
            | some (gap, after) => quotedParts? quote bound (text ++ gap.more) after
            | Option.none => Option.none
          else
            match escape? rest with
            | some (escaped, count) =>
              quotedParts? quote bound (text ++ [escaped]) (p.drop (count + 1))
            | Option.none => Option.none
        else if isBlank c || isBreak c then
          match takeGap? 0 p.rest.length.succ .none p with
          | some (gap, after) => quotedParts? quote bound (text ++ gap.text) after
          | Option.none => Option.none
        else quotedParts? quote bound (text ++ [c]) (p.drop 1)

/-- The quoted value at a place. -/
def quotedScalar? (quote : Char) (p : Place) : Option ScalarRead :=
  quotedParts? quote p.rest.length.succ [] (p.drop 1)

/-! ## Blocks of lines -/

/-- What becomes of the line breaks at the end of a block. -/
inductive Chomping where
  | strip
  | clip
  | keep
deriving DecidableEq, Repr

/-- The chomping that a sign asks for. -/
def chomping? : Char → Option Chomping
  | '+' => some .keep
  | '-' => some .strip
  | _ => Option.none

/-- The number of columns that a digit asks for. -/
def indentDigit? (c : Char) : Option Nat :=
  if '1' ≤ c ∧ c ≤ '9' then some (c.toNat - '0'.toNat) else Option.none

/-- The head of a block after its mark: chomping and columns, in any order, and the text after them. The
number of columns is not zero. -/
def blockHead? (text : List Char) : Option (Chomping × Option Nat × List Char) :=
  match text with
  | c :: rest =>
    match chomping? c, indentDigit? c with
    | some chomping, _ =>
      match rest with
      | d :: more =>
        if d = '0' then Option.none
        else
          match indentDigit? d with
          | some count => some (chomping, some count, more)
          | Option.none => some (chomping, Option.none, rest)
      | [] => some (chomping, Option.none, rest)
    | Option.none, some count =>
      match rest with
      | d :: more =>
        match chomping? d with
        | some chomping => some (chomping, some count, more)
        | Option.none => some (.clip, some count, rest)
      | [] => some (.clip, some count, rest)
    | Option.none, Option.none =>
      if c = '0' then Option.none else some (.clip, Option.none, text)
  | [] => some (.clip, Option.none, text)

/-- Skips indentation and empty lines. `indent` is the indentation of the block, if it is known; the result
has the line breaks, the greatest indentation and the place. A tab in the indentation is a fault. -/
def blockGap? (indent : Option Nat) :
    Nat → List Char → Nat → Place → Option (List Char × Nat × Place)
  | 0, _, _, _ => Option.none
  | bound + 1, breaks, widest, p =>
    let inIndent (column : Nat) : Bool := indent.all fun width => column < width
    match p.rest with
    | ' ' :: _ =>
      if inIndent p.column then blockGap? indent bound breaks (max widest (p.column + 1)) (p.drop 1)
      else some (breaks, widest, p)
    | '\t' :: _ => if inIndent p.column then Option.none else some (breaks, widest, p)
    | text =>
      match takeBreak? text with
      | some (b, _) => blockGap? indent bound (breaks ++ [b]) (max widest p.column) p.skipBreak
      | Option.none => some (breaks, max widest p.column, p)

/-- What has been read of a block. -/
structure BlockState where
  text : List Char
  /-- The line break after the last line. -/
  lastBreak : List Char
  /-- The empty lines after it. -/
  emptyLines : List Char
  /-- Whether the last line begins with a blank, so that it is not folded. -/
  lastIndented : Bool

/-- The lines of a block at an indentation. -/
def blockLines? (folded : Bool) (indent : Nat) :
    Nat → BlockState → Place → Option (BlockState × Place)
  | 0, _, _ => Option.none
  | bound + 1, s, p =>
    if p.column = indent ∧ p.rest ≠ [] then
      let indented := p.rest.head?.any isBlank
      -- Folding turns a single break between two plain lines into a blank.
      let joint :=
        if folded && s.lastBreak == ['\n'] && !s.lastIndented && !indented then
          if s.emptyLines.isEmpty then [' '] else []
        else s.lastBreak
      let line := p.rest.takeWhile fun c => !isBreak c
      let ended := p.drop line.length
      let lineBreak := (takeBreak? ended.rest).toList.map (·.1)
      match blockGap? (some indent) p.rest.length.succ [] 0 ended.skipBreak with
      | some (breaks, _, after) =>
        let text := s.text ++ joint ++ s.emptyLines ++ line
        blockLines? folded indent bound ⟨text, lineBreak, breaks, indented⟩ after
      | Option.none => Option.none
    else some (s, p)

/-- The block of lines at a place, inside of what is indented by `parent`. -/
def blockScalar? (folded : Bool) (parent : Int) (p : Place) : Option ScalarRead :=
  match blockHead? (p.rest.drop 1) with
  | Option.none => Option.none
  | some (chomping, columns, rest) =>
    let head := (p.drop (p.rest.length - rest.length)).dropWhile isBlank
    let head :=
      if head.rest.head? = some '#' then head.dropWhile fun c => !isBreak c else head
    if !atLineEnd head.rest then Option.none
    else
      let start := head.skipBreak
      let bound := p.rest.length + 1
      let given := columns.map fun count => (max parent 0).toNat + count
      match blockGap? given bound [] 0 start with
      | Option.none => Option.none
      | some (breaks, widest, first) =>
        -- Without a digit in its head, a block is as far in as its first line with text.
        let indent := given.getD (max widest (max (parent + 1) 1).toNat)
        match blockLines? folded indent bound ⟨[], [], breaks, false⟩ first with
        | Option.none => Option.none
        | some (s, after) =>
          let tail := match chomping with
            | .strip => []
            | .clip => s.lastBreak
            | .keep => s.lastBreak ++ s.emptyLines
          some ⟨s.text ++ tail, after, true⟩

end ServiceStubs.Yaml
