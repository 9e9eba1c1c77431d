import ServiceStubs.Yaml.Scalar
import ServiceStubs.Yaml.Token

/-!
# The tokens of a YAML text

A text is cut into tokens from left to right. Whether a value is a key shows only at the colon after it:
until then its place is kept as a `KeyCandidate`, and the colon puts the tokens for a key there. Outside
of brackets, columns open and close collections.

`tokens?` gives the tokens of a text, or nothing if it is no YAML.
-/

namespace ServiceStubs.Yaml

/-! ## State -/

/-- A place at which a key may have begun. -/
structure KeyCandidate where
  /-- Whether there must be a colon, as nothing else can stand at this column. -/
  required : Bool
  /-- The number of tokens before the place. -/
  tokenCount : Nat
  line : Nat
  column : Nat
  index : Nat

/-- What has been read of a text. -/
structure Cutting where
  place : Place
  tokens : Array Token
  /-- The columns of the open collections, the innermost first. -/
  columns : List Nat
  /-- For the text outside of all brackets and for each open bracket, the innermost first, the place at which
  a key may have begun. -/
  candidates : List (Option KeyCandidate)
  /-- Whether a key can begin here. -/
  keyAllowed : Bool

namespace Cutting

/-- Whether a bracket is open. -/
def inFlow (s : Cutting) : Bool :=
  1 < s.candidates.length

/-- The column of the innermost open collection; one less than the first if there is none. -/
def indent (s : Cutting) : Int :=
  match s.columns with
  | [] => -1
  | column :: _ => column

/-- The state with one more token. -/
def push (s : Cutting) (t : Token) : Cutting :=
  { s with tokens := s.tokens.push t }

/-- The state with a token before those after the first `count`. -/
def insert (s : Cutting) (count : Nat) (t : Token) : Cutting :=
  { s with tokens := (s.tokens.extract 0 count).push t ++ s.tokens.extract count s.tokens.size }

/-- The state `count` characters further on. -/
def skip (s : Cutting) (count : Nat) : Cutting :=
  { s with place := s.place.drop count }

/-! ## Collections told by columns -/

/-- Closes the collections that begin right of a column; -1 closes all. -/
def closeBlocks (s : Cutting) (column : Int) : Cutting :=
  if s.inFlow then s
  else
    let isRight (c : Nat) : Bool := column < (c : Int)
    { s with
      tokens := s.tokens ++ (s.columns.takeWhile isRight).map fun _ => Token.blockEnd
      columns := s.columns.dropWhile isRight }

/-- Opens a collection at a column, before the tokens after the first `count`, unless one is open
there. -/
def openBlock (s : Cutting) (column count : Nat) (start : Token) : Cutting :=
  if !s.inFlow && s.indent < (column : Int) then
    { s.insert count start with columns := column :: s.columns }
  else s

/-! ## Keys -/

/-- Gives up the place at which a key may have begun, if it need not be one. -/
def dropCandidate? (s : Cutting) : Option Cutting :=
  match s.candidates with
  | some candidate :: rest =>
    if candidate.required then none else some { s with candidates := none :: rest }
  | _ => some s

/-- Gives up the places from which no key can reach here: a key is on one line and not long. -/
def dropStale? (s : Cutting) : Option Cutting := do
  let kept ← s.candidates.mapM fun candidate? =>
    match candidate? with
    | some candidate =>
      if candidate.line < s.place.line ∨ candidate.index + 1024 < s.place.index then
        if candidate.required then none else some none
      else some (some candidate)
    | none => some none
  return { s with candidates := kept }

/-- Remembers that a key may begin here. -/
def noteCandidate? (s : Cutting) : Option Cutting :=
  if s.keyAllowed then do
    let s ← s.dropCandidate?
    let p := s.place
    -- At the column of an open collection no other value can stand than a further key.
    let required := !s.inFlow && s.indent = (p.column : Int)
    return { s with
      candidates := some ⟨required, s.tokens.size, p.line, p.column, p.index⟩ :: s.candidates.drop 1 }
  else some s

/-! ## Single tokens -/

/-- A mark that is a token by itself. -/
def takeMark (s : Cutting) (t : Token) : Cutting :=
  (s.push t).skip 1

/-- An opening bracket. -/
def openBracket? (s : Cutting) (t : Token) : Option Cutting := do
  let s ← s.noteCandidate?
  return { s.takeMark t with candidates := none :: s.candidates, keyAllowed := true }

/-- A closing bracket. -/
def closeBracket? (s : Cutting) (t : Token) : Option Cutting := do
  let s ← s.dropCandidate?
  let candidates := if s.inFlow then s.candidates.drop 1 else s.candidates
  return { s.takeMark t with candidates, keyAllowed := false }

/-- A comma. -/
def takeComma? (s : Cutting) : Option Cutting := do
  let s ← s.dropCandidate?
  return { s.takeMark .comma with keyAllowed := true }

/-- A dash in front of an entry. -/
def takeDash? (s : Cutting) : Option Cutting := do
  if !s.inFlow && !s.keyAllowed then none
  let s ← (s.openBlock s.place.column s.tokens.size .sequenceStart).dropCandidate?
  return { s.takeMark .dash with keyAllowed := true }

/-- A question mark in front of a key. -/
def takeKey? (s : Cutting) : Option Cutting := do
  if !s.inFlow && !s.keyAllowed then none
  let s ← (s.openBlock s.place.column s.tokens.size .mappingStart).dropCandidate?
  return { s.takeMark .key with keyAllowed := !s.inFlow }

/-- A colon in front of a value. What stands before it is a key if a key may have begun there. -/
def takeColon? (s : Cutting) : Option Cutting :=
  match s.candidates with
  | some candidate :: rest =>
    let s := { s with candidates := none :: rest }
    -- The key has been cut already: its mark is put in front of it now.
    let s := (s.insert candidate.tokenCount .key).openBlock candidate.column candidate.tokenCount
      .mappingStart
    some { s.takeMark .value with keyAllowed := false }
  | _ =>
    if !s.inFlow && !s.keyAllowed then none
    else
      -- The key is empty, and the mapping begins at the colon.
      let s := s.openBlock s.place.column s.tokens.size .mappingStart
      some { s.takeMark .value with keyAllowed := !s.inFlow }

/-- A value that can be a key. -/
def takeScalar? (s : Cutting) (plain : Bool) (read : Cutting → Option ScalarRead) : Option Cutting := do
  let s ← s.noteCandidate?
  let found ← read s
  return { s.push (.scalar (String.ofList found.text) plain) with
    place := found.after
    keyAllowed := found.endedLine }

/-- A block of lines, which is never a key. -/
def takeBlock? (s : Cutting) (folded : Bool) : Option Cutting := do
  let s ← s.dropCandidate?
  let found ← blockScalar? folded s.indent s.place
  return { s.push (.scalar (String.ofList found.text) false) with
    place := found.after
    keyAllowed := true }

/-! ## Anchors and tags -/

/-- Characters of names. -/
def isNameCharacter (c : Char) : Bool :=
  c.isAlphanum || c == '_' || c == '-'

/-- An anchor or an alias, after its mark. -/
def takeAnchor? (s : Cutting) (token : String → Token) : Option Cutting := do
  let s ← s.noteCandidate?
  let after := (s.place.drop 1).dropWhile isNameCharacter
  let name := (s.place.rest.drop 1).takeWhile isNameCharacter
  let ends := atGap after.rest || after.rest.head?.any fun c => "?:,]\x7d%@\x60".toList.contains c
  if name.isEmpty || !ends then none
  return { s.push (token (String.ofList name)) with place := after, keyAllowed := false }

/-- Characters of tags. -/
def isTagCharacter (verbatim : Bool) (c : Char) : Bool :=
  isNameCharacter c || ";/?:@&=+$.!~*'()%".toList.contains c ||
    (verbatim && ",[]".toList.contains c)

/-- A tag: the handle that says where its name belongs, the name, and the place after it. -/
def tagAt? (p : Place) : Option (String × String × Place) :=
  match p.rest.drop 1 with
  | '<' :: rest =>
    let name := rest.takeWhile (isTagCharacter true)
    let after := p.drop (2 + name.length)
    if name.isEmpty ∨ after.rest.head? ≠ some '>' then none
    else some ("", String.ofList name, after.drop 1)
  | rest =>
    let word := rest.takeWhile isNameCharacter
    match rest.drop word.length with
    | '!' :: more =>
      let name := more.takeWhile (isTagCharacter false)
      if name.isEmpty then none
      else
        some ("!" ++ String.ofList word ++ "!", String.ofList name, p.drop (2 + word.length + name.length))
    | _ =>
      let name := rest.takeWhile (isTagCharacter false)
      if name.isEmpty then some ("", "!", p.drop 1)
      else some ("!", String.ofList name, p.drop (1 + name.length))

/-- A tag, from its mark on. -/
def takeTag? (s : Cutting) : Option Cutting := do
  let s ← s.noteCandidate?
  let (handle, suffix, after) ← tagAt? s.place
  if !(atGap after.rest || (s.inFlow && after.rest.head? == some ',')) then none
  return { s.push (.tag handle suffix) with place := after, keyAllowed := false }

/-! ## Documents -/

/-- A mark between documents. -/
def takeDocumentMark? (s : Cutting) (t : Token) : Option Cutting := do
  let s ← (s.closeBlocks (-1)).dropCandidate?
  return { (s.push t).skip 3 with keyAllowed := false }

/-- A directive of a name, with its arguments. -/
def directive? (name : String) (arguments : List String) : Option Token :=
  match name, arguments with
  | "YAML", [version] =>
    match version.splitOn "." with
    | [major, minor] =>
      match major.toNat?, minor.toNat? with
      | some major, some minor => some (.version major minor)
      | _, _ => none
    | _ => none
  | "TAG", [handle, start] => some (.tagHandle handle start)
  | _, _ => none

/-- A line with a directive. -/
def takeDirective? (s : Cutting) : Option Cutting := do
  let s ← (s.closeBlocks (-1)).dropCandidate?
  let line := s.place.rest.takeWhile fun c => !isBreak c
  let words := ((String.ofList (line.drop 1)).split isBlank).toStringList.filter (· ≠ "")
  let words := words.takeWhile fun word => !word.startsWith "#"
  let token ← directive? (words.headD "") (words.drop 1)
  return { (s.push token).skip line.length with keyAllowed := false }

/-! ## The next token -/

/-- The place of the next token, and whether a key can begin there. Tabs are blanks where no key can
begin. -/
def nextPlace (inFlow : Bool) : Nat → Bool → Place → Bool × Place
  | 0, keyAllowed, p => (keyAllowed, p)
  | bound + 1, keyAllowed, p =>
    match p.rest with
    | ' ' :: _ => nextPlace inFlow bound keyAllowed (p.drop 1)
    | '\t' :: _ =>
      if inFlow || !keyAllowed then nextPlace inFlow bound keyAllowed (p.drop 1) else (keyAllowed, p)
    | '#' :: _ => nextPlace inFlow bound keyAllowed (p.dropWhile fun c => !isBreak c)
    | text =>
      if (takeBreak? text).isSome then nextPlace inFlow bound (keyAllowed || !inFlow) p.skipBreak
      else (keyAllowed, p)

/-- Whether a plain value can begin with a character, in front of a text. -/
def beginsPlain (inFlow : Bool) (c : Char) (rest : List Char) : Bool :=
  !(isBlank c || isBreak c || "-?:,[]\x7b\x7d#&*!|>'\"%@\x60".toList.contains c) ||
    (c == '-' && !(rest.head?.all isBlank)) ||
    (!inFlow && (c == '?' || c == ':') && !atGap rest)

/-- The token that begins with a character. -/
def takeToken? (s : Cutting) (c : Char) (rest : List Char) : Option Cutting :=
  let atLineStart := s.place.column = 0
  if atLineStart ∧ c = '%' then s.takeDirective?
  else if atLineStart ∧ atDocumentMark (c :: rest) then
    s.takeDocumentMark? (if c = '-' then .documentStart else .documentEnd)
  else
    let gap := atGap rest
    let flow := s.inFlow
    match c with
    | '[' => s.openBracket? .openSequence
    | '\x7b' => s.openBracket? .openMapping
    | ']' => s.closeBracket? .closeSequence
    | '\x7d' => s.closeBracket? .closeMapping
    | ',' => s.takeComma?
    | '*' => s.takeAnchor? .alias
    | '&' => s.takeAnchor? .anchor
    | '!' => s.takeTag?
    | '\'' => s.takeScalar? false fun s => quotedScalar? '\'' s.place
    | '"' => s.takeScalar? false fun s => quotedScalar? '"' s.place
    | _ =>
      if c = '-' ∧ gap then s.takeDash?
      else if c = '?' ∧ (flow ∨ gap) then s.takeKey?
      else if c = ':' ∧ (flow ∨ gap) then s.takeColon?
      else if c = '|' ∧ ¬ flow then s.takeBlock? false
      else if c = '>' ∧ ¬ flow then s.takeBlock? true
      else if beginsPlain flow c rest then
        s.takeScalar? true fun s => plainScalar? s.inFlow s.indent s.place
      else none

/-- Cuts the rest of a text into tokens. The first argument bounds their number. -/
def cutAll? : Nat → Cutting → Option (List Token)
  | 0, _ => none
  | bound + 1, s => do
    -- Each token is cut in the same order: blanks, keys out of reach, closed collections, the token.
    let (keyAllowed, place) := nextPlace s.inFlow s.place.rest.length.succ s.keyAllowed s.place
    let s ← dropStale? { s with keyAllowed, place }
    match place.rest with
    | [] =>
      let s ← (s.closeBlocks (-1)).dropCandidate?
      return s.tokens.toList
    | c :: rest => do
      let s ← (s.closeBlocks place.column).takeToken? c rest
      cutAll? bound s

end Cutting

/-- The tokens of a text. -/
def tokens? (text : List Char) : Option (List Token) :=
  let text := match text with
    | c :: rest => if c.toNat = 0xFEFF then rest else text
    | [] => []
  if text.all isAllowed then
    Cutting.cutAll? text.length.succ ⟨⟨text, 0, 0, 0⟩, #[], [], [none], true⟩
  else none

end ServiceStubs.Yaml
