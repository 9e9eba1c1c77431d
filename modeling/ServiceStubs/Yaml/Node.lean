import ServiceStubs.Yaml.Tokens

/-!
# YAML documents

A document is a tree of values, sequences and mappings. An alias stands for the node that was last given
its name. What has no content is an empty plain value.

`Node.read?` is the document of a text that holds exactly one.
-/

namespace ServiceStubs.Yaml

/-- A part of a document. Only the tags of values are kept. -/
inductive Node where
  | scalar (text : String) (plain : Bool) (tag : Option String)
  | sequence (items : List Node)
  | mapping (entries : List (Node × Node))

instance : Inhabited Node := ⟨.scalar "" true none⟩

/-- The node that stands where nothing is written. -/
def Node.empty : Node := .scalar "" true none

/-- What remains to be read of a document, and what is known from the text before. -/
structure Reading where
  tokens : List Token
  anchors : List (String × Node)
  /-- What the handles of tags stand for. -/
  handles : List (String × String)

/-- A reader of a part of a document. -/
abbrev Read := StateT Reading Option

namespace Read

variable {α : Type}

/-- The next token, if there is one. -/
def next? : Read (Option Token) := do
  return (← get).tokens.head?

/-- Goes on to the token after the next one. -/
def advance : Read Unit :=
  modify fun s => { s with tokens := s.tokens.drop 1 }

/-- Reads a token, if it is next. -/
def skip (t : Token) : Read Bool := do
  if (← next?) = some t then
    advance
    return true
  else return false

/-- Reads a token that must be next. -/
def expect (t : Token) : Read Unit := do
  unless ← skip t do failure

/-- Reads parts until there is none, at most `bound` of them. -/
def collect (bound : Nat) (part : Read (Option α)) : Read (List α) :=
  match bound with
  | 0 => failure
  | bound + 1 => do
    match ← part with
    | none => return []
    | some a => return a :: (← collect bound part)

/-- Reads a node, or nothing if one of the tokens is next. -/
def unless? (stops : List Token) (node : Read Node) : Read Node := do
  match ← next? with
  | some t => if stops.contains t then return .empty else node
  | none => return .empty

/-! ## Collections -/

/-- The entries of a sequence told by columns. -/
def blockSequence (bound : Nat) (node : Read Node) : Read (List Node) :=
  collect bound do
    if ← skip .blockEnd then return none
    else
      expect .dash
      return some (← unless? [.dash, .blockEnd] node)

/-- The entries of a sequence as far in as the mapping that holds it. -/
def flushSequence (bound : Nat) (node : Read Node) : Read (List Node) :=
  collect bound do
    if ← skip .dash then return some (← unless? [.dash, .key, .value, .blockEnd] node)
    else return none

/-- The entries of a mapping told by columns. -/
def blockMapping (bound : Nat) (node : Read Node) : Read (List (Node × Node)) :=
  let part := unless? [.key, .value, .blockEnd] node
  collect bound do
    if ← skip .blockEnd then return none
    else
      expect .key
      let key ← part
      let value ← if ← skip .value then part else pure .empty
      return some (key, value)

/-- Parts with commas between them, up to a closing bracket. -/
def bracketed (bound : Nat) (closing : Token) (part : Read α) : Read (List α) := do
  if ← skip closing then return []
  else
    let first ← part
    let more ← collect bound do
      if ← skip closing then return none
      else
        expect .comma
        if ← skip closing then return none else return some (some (← part))
    return first :: more.filterMap id

/-- The value of a pair in brackets, if there is one. -/
def pairValue (closing : Token) (node : Read Node) : Read Node := do
  if ← skip .value then unless? [.comma, closing] node else return .empty

/-- A pair inside of brackets, after the mark of its key. -/
def pair (closing : Token) (node : Read Node) : Read (Node × Node) := do
  let key ← unless? [.value, .comma, closing] node
  return (key, ← pairValue closing node)

/-- An entry of a sequence in brackets. A pair is a mapping of its own. -/
def sequenceItem (node : Read Node) : Read Node := do
  if ← skip .key then return .mapping [← pair .closeSequence node] else node

/-- An entry of a mapping in brackets. -/
def mappingItem (node : Read Node) : Read (Node × Node) := do
  if ← skip .key then pair .closeMapping node
  else
    let key ← node
    return (key, ← pairValue .closeMapping node)

/-! ## Nodes -/

/-- What is written in front of a node. -/
structure Properties where
  anchor : Option String
  tag : Option String

/-- The name of a tag. -/
def tagName (handle suffix : String) : Read String := do
  if handle = "" then return suffix
  else
    match (← get).handles.lookup handle with
    | some start => return start ++ suffix
    | none => failure

/-- The properties in front of a node, in any order, each at most once. -/
def properties (bound : Nat) (found : Properties) : Read Properties :=
  match bound with
  | 0 => return found
  | bound + 1 => do
    match ← next? with
    | some (.anchor name) =>
      if found.anchor.isSome then return found
      advance
      properties bound { found with anchor := some name }
    | some (.tag handle suffix) =>
      if found.tag.isSome then return found
      advance
      properties bound { found with tag := some (← tagName handle suffix) }
    | _ => return found

/-- The tag of a written value. The tag `!` says nothing about one. -/
def valueTag (p : Properties) : Option String :=
  p.tag.filter (· ≠ "!")

/-- A node after its properties. `inBlock` says whether collections can be told by columns, `flush` whether a
sequence can begin without being indented. -/
def content (bound : Nat) (node : Bool → Bool → Read Node) (inBlock flush : Bool) (p : Properties) :
    Read Node := do
  match ← next? with
  | some (.scalar text plain) =>
    advance
    return .scalar text plain (valueTag p)
  | some .dash =>
    -- A dash as far in as the key of its mapping: no token opens this sequence or closes it.
    if flush then return .sequence (← flushSequence bound (node true false))
    -- Properties alone stand for an empty value.
    else if p.anchor.isSome || p.tag.isSome then return .scalar "" true p.tag
    else failure
  | some .openSequence =>
    advance
    return .sequence (← bracketed bound .closeSequence (sequenceItem (node false false)))
  | some .openMapping =>
    advance
    return .mapping (← bracketed bound .closeMapping (mappingItem (node false false)))
  | found =>
    if inBlock && found = some .sequenceStart then
      advance
      return .sequence (← blockSequence bound (node true false))
    else if inBlock && found = some .mappingStart then
      advance
      return .mapping (← blockMapping bound (node true true))
    else if p.anchor.isSome || p.tag.isSome then return .scalar "" true p.tag
    else failure

/-- A node. The first argument bounds the depth, the second the number of parts of a collection. -/
def node (depth bound : Nat) (inBlock flush : Bool) : Read Node :=
  match depth with
  | 0 => failure
  | depth + 1 => do
    match ← next? with
    | some (.alias name) =>
      advance
      match (← get).anchors.lookup name with
      | some found => return found
      | none => failure
    | _ =>
      let p ← properties 2 ⟨none, none⟩
      let found ← content bound (node depth bound) inBlock flush p
      -- The anchor is set only now, so a node cannot hold an alias of itself.
      if let some name := p.anchor then
        modify fun s => { s with anchors := (name, found) :: s.anchors }
      return found

/-! ## Documents -/

/-- The handles of tags that need no directive. -/
def defaultHandles : List (String × String) :=
  [("!", "!"), ("!!", "tag:yaml.org,2002:")]

/-- The directives in front of a document; whether there are any. -/
def directives (bound : Nat) (versioned : Bool) : Read Bool :=
  match bound with
  | 0 => failure
  | bound + 1 => do
    match ← next? with
    | some (.version major minor) =>
      if versioned || major ≠ 1 || (minor ≠ 1 && minor ≠ 2) then failure
      advance
      let _ ← directives bound true
      return true
    | some (.tagHandle handle start) =>
      advance
      modify fun s => { s with handles := (handle, start) :: s.handles }
      let _ ← directives bound versioned
      return true
    | _ => return false

/-- The only document of a text. -/
def document (bound : Nat) : Read Node := do
  let directed ← directives bound false
  let explicit ← skip .documentStart
  if directed && !explicit then failure
  let root := node bound bound true false
  let found ← if explicit then unless? [.documentEnd, .documentStart] root else root
  let _ ← collect bound do
    if ← skip .documentEnd then return some () else return none
  if (← next?).isSome then failure
  return found

end Read

/-- The document of a text, if the text holds exactly one. -/
def Node.read? (text : String) : Option Node := do
  let tokens ← tokens? text.toList
  let (found, _) ← (Read.document (tokens.length + 2)).run ⟨tokens, [], Read.defaultHandles⟩
  return found

end ServiceStubs.Yaml
