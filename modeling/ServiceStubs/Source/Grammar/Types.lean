import ServiceStubs.Source.Grammar.Parameters

/-!
# Types

The notation of types, from single words to function types, and the members of types in braces.

Main definitions:

* `Grammar.wholeType` reads a type;
* `Grammar.typeMember` reads a member of an interface or of a type in braces.
-/

namespace ServiceStubs.Source.Grammar

open Parse

variable (g : Grammar)

/-- The types that are words. -/
def typeKeyword? : String → Option TypeKeyword
  | "string" => some .string
  | "number" => some .number
  | "bigint" => some .bigint
  | "boolean" => some .boolean
  | "any" => some .any
  | "unknown" => some .unknown
  | "object" => some .object
  | "void" => some .void
  | "never" => some .never
  | "null" => some .null
  | "undefined" => some .undefined
  | "symbol" => some .symbol
  | "intrinsic" => some .intrinsic
  | _ => none

/-! ## Names of types -/

/-- The dotted names after the first one; whether there are any. -/
def dottedNames : Parse Bool := do
  let names ← collect g.bound do
    if ← skipMark "." then return some (← anyWord) else return none
  return !names.isEmpty

/-- Type arguments on the same line, if there are any. -/
def typeArgumentsHere : Parse (List TypeExpr) := do
  if (← atMark "<") && !(← afterLineBreak) then g.typeArguments else return []

/-- A named type with its arguments. -/
def typeReference : Parse TypeExpr := do
  let first ← anyWord
  let qualified ← g.dottedNames
  let arguments ← g.typeArgumentsHere
  return if qualified then .other else .reference first arguments

/-- The type of an imported module, after `import`. -/
def importType : Parse TypeExpr := do
  expectMark "("
  let _ ← g.type
  if ← skipMark "," then
    let _ ← g.assignment .plain
    let _ ← skipMark ","
  expectMark ")"
  let _ ← g.dottedNames
  let _ ← g.typeArgumentsHere
  return .other

/-- The type of a value, after `typeof`. -/
def valueType : Parse TypeExpr := do
  if ← skipWord "import" then g.importType
  else
    let _ ← anyWord
    let _ ← collect g.bound do
      if ← skipMark "." then
        if (← lexeme) matches .hiddenName then
          advance
          return some ()
        else
          let _ ← anyWord
          return some ()
      else return none
    let _ ← g.typeArgumentsHere
    return .other

/-! ## Members -/

/-- The end of a member of a type. -/
def memberEnd : Parse Unit := do
  unless ← skipMark "," do expectEnd

/-- A call or construct signature from its type parameters on. -/
def signature : Parse TypeMember := do
  let _ ← g.typeParameters
  g.signatureParameters
  let _ ← g.result?
  memberEnd
  return .other

/-- Whether an index signature starts here: a bracket, a name and a colon. -/
def atIndexSignature : Parse Bool :=
  canRead do
    expectMark "["
    let _ ← name
    atMark ":"

/-- An index signature. -/
def indexSignature : Parse TypeMember := do
  expectMark "["
  let _ ← name
  let key ← g.annotation?
  expectMark "]"
  let value ← g.annotation?
  memberEnd
  return .index key value

/-- The name of a member of a type. -/
def typeMemberName : Parse MemberName := do
  if (← lexeme) matches .bigInteger then fail
  memberName g.computedName

/-- A property or method of a type. -/
def propertyOrMethod : Parse TypeMember := do
  let key ← g.typeMemberName
  let optional ← skipMark "?"
  if (← atMark "(") || (← atMark "<") then g.signature
  else
    let type ← g.annotation?
    memberEnd
    return .property key optional type

/-- A member that computes a property. -/
def accessor : Parse TypeMember := do
  if ← skipWord "get" then
    let _ ← g.typeMemberName
    expectMark "("
    expectMark ")"
  else
    expectWord "set"
    let _ ← g.typeMemberName
    g.signatureParameters
  let _ ← g.result?
  memberEnd
  return .other

/-- Whether a word in front of a member is a modifier, given the token after it: what follows on its line
is another part of the same member. -/
def precedesMember (following : Token) : Bool :=
  !following.afterLineBreak &&
    match following.lexeme with
    | .mark text => text == "[" || text == "\x7b" || text == "*" || text == "..."
    | .word _ _ | .hiddenName | .string _ | .number _ | .bigInteger => true
    | .invalid | .endOfText => false

/-- A member of a type in braces. -/
def typeMember : Parse TypeMember := do
  if (← atMark "(") || (← atMark "<") then g.signature
  else
    let following := (← get).next
    -- `new` in front of parameters is the signature of a constructor, elsewhere it is a member of that name.
    if (← atWord "new") && (isMark "(" following.lexeme || isMark "<" following.lexeme) then
      advance
      g.signature
    else
      let readOnly := (← atWord "readonly") && precedesMember following
      if readOnly then advance
      if ← atIndexSignature then g.indexSignature
      -- `get` and `set` are also names of members: where no accessor can be read, they are read as such.
      else if !readOnly && (← atWordOf ["get", "set"]) then either g.accessor g.propertyOrMethod
      else g.propertyOrMethod

/-- Whether a mapped type starts after the opening brace. -/
def atMappedType : Parse Bool :=
  canRead do
    if ← skipMarkOf ["+", "-"] then atWord "readonly"
    else
      let _ ← skipWord "readonly"
      expectMark "["
      let _ ← anyWord
      atWord "in"

/-- A sign in front of a modifier of a mapped type. -/
def signedMark (mark : String) : Parse Bool := do
  if ← skipMarkOf ["+", "-"] then
    expectMark mark
    return true
  else skipMark mark

/-- A mapped type, after its opening brace. -/
def mappedType : Parse TypeExpr := do
  if ← skipMarkOf ["+", "-"] then expectWord "readonly"
  else
    let _ ← skipWord "readonly"
  expectMark "["
  let _ ← anyWord
  expectWord "in"
  let _ ← g.type
  -- `as` names the members anew; the names are read and forgotten, like the whole mapping.
  if ← skipWord "as" then
    let _ ← g.type
  expectMark "]"
  let _ ← signedMark "?"
  let _ ← g.annotation?
  expectEnd
  expectMark "\x7d"
  return .other

/-- A type in braces, after the opening one. -/
def bracedType : Parse TypeExpr := do
  if ← atMappedType then g.mappedType
  else return .members (← untilMark g.bound "\x7d" g.typeMember)

/-! ## Tuples and templates -/

/-- An element of a tuple. It can have a label. -/
def tupleElement : Parse Unit := do
  let _ ← skipMark "..."
  let labelled ← canRead do
    let _ ← anyWord
    let _ ← skipMark "?"
    atMark ":"
  -- The label was only looked at: it is consumed here, and a question mark can stand after it as well as
  --  after the type.
  if labelled then
    advance
    let _ ← skipMark "?"
    expectMark ":"
  let _ ← g.type
  let _ ← skipMark "?"
  return ()

/-- The parts of a template from the text after its opening backtick or after a closing brace on. Between them
stand phrases in braces. `start` is the text from the opening backtick on, where a template without an
end is at fault. Only with a tag may its escapes stand for nothing. -/
def templateParts {α : Type} (phrase : Parse α) (tagged : Bool) (start : List Char) :
    Nat → List Char → Parse Unit
  | 0, _ => fail
  | bound + 1, text => do
    match readTemplatePart? none text with
    | none => failAt start
    | some part =>
      if let some fault := part.fault then
        -- A tag sees the text as it is written, so an escape without meaning is allowed to it.
        unless tagged do failAt fault
      set (Token.after part.precedesExpression part.rest)
      if part.precedesExpression then
        let _ ← phrase
        -- The brace is not consumed as a token: the text right after it is template again.
        unless ← atMark "\x7d" do fail
        templateParts phrase tagged start bound (← get).rest

/-- A template, with phrases in braces and a tag in front of it or none. -/
def template {α : Type} (phrase : Parse α) (tagged : Bool) : Parse Unit := do
  unless ← atMark "\x60" do fail
  let t ← get
  templateParts phrase tagged t.start g.bound t.rest

/-! ## Function types -/

/-- Whether what follows an opening parenthesis can only be a list of parameters. -/
def atParameterList : Parse Bool :=
  canRead do
    expectMark "("
    if (← atMark ")") || (← atMark "...") then return true
    fieldModifiers 1
    if isAnyWord (← lexeme) then advance
    else
      let _ ← g.target
    if (← atMark ":") || (← atMark ",") || (← atMark "?") || (← atMark "=") then return true
    expectMark ")"
    atMark "=>"

/-- The type of a function, from its type parameters on. -/
def functionType : Parse TypeExpr := do
  let _ ← g.typeParameters
  g.signatureParameters
  expectMark "=>"
  let _ ← g.resultType
  return .other

/-! ## Operators on types -/

/-- Whether a word that is no keyword names a type. -/
def namesType (word : String) : Bool :=
  word != "let" && (isIdentifier word || ["await", "break", "yield"].contains word)

/-- A type that no operator joins. -/
def simpleType : Parse TypeExpr := do
  match ← lexeme with
  | .string _ =>
    advance
    return .literal .string
  | .number _ =>
    advance
    return .literal .number
  | .bigInteger =>
    advance
    return .literal .bigint
  -- A sign makes a literal of a number only; anywhere else it is an error.
  | .mark "-" =>
    advance
    match ← lexeme with
    | .number _ =>
      advance
      return .literal .number
    | .bigInteger =>
      advance
      return .literal .bigint
    | _ => fail
  | .mark "\x60" =>
    g.template g.type false
    return .literal .string
  | .mark "\x7b" =>
    advance
    g.bracedType
  | .mark "[" =>
    advance
    let _ ← commaList g.bound "]" g.tupleElement
    return .other
  | .mark "(" =>
    advance
    let inner ← g.type
    expectMark ")"
    return .parenthesized inner
  | .word "true" false | .word "false" false =>
    advance
    return .literal .boolean
  | .word "import" false =>
    advance
    g.importType
  | .word "typeof" false =>
    advance
    g.valueType
  | .word "this" false =>
    advance
    -- The type of a method that tells what its object is.
    if (← atWord "is") && !(← afterLineBreak) then
      advance
      let _ ← g.type
    return .other
  | .word word escaped =>
    match typeKeyword? word with
    | some keyword =>
      -- In front of a dot the keyword is the name of a namespace.
      if isMark "." (← lexemeAfter) then g.typeReference
      else
        advance
        return .keyword keyword
    -- A word that is spelled with an escape is never reserved.
    | none => if escaped || namesType word then g.typeReference else fail
  | _ => fail

/-- A type with the brackets after it: arrays, and members of types. -/
def postfixType : Parse TypeExpr := do
  let base ← g.simpleType
  let suffixes ← collect g.bound do
    -- On a new line the bracket begins a computed member of the type around this one.
    if (← atMark "[") && !(← afterLineBreak) then
      advance
      if ← skipMark "]" then return some true
      else
        let _ ← g.type
        expectMark "]"
        return some false
    else return none
  return suffixes.foldl (fun type isArray => if isArray then .array type else .other) base

/-- A bound of an inferred type, if there is one. What stands before a question mark is a condition instead,
unless the type is part of one already. -/
def inferredBound (inCondition : Bool) : Parse Unit := do
  let _ ← attempt do
    expectWord "extends"
    let _ ← g.unconditional inCondition
    if !inCondition && (← atMark "?") then fail
  return ()

/-- A type with the operators in front of it. The last argument bounds their number. -/
def prefixedType (inCondition : Bool) : Nat → Parse TypeExpr
  | 0 => fail
  | bound + 1 => do
    -- What these operators compute is not known here; only `readonly` leaves its type as it is.
    if ← atWordOf ["keyof", "unique"] then
      advance
      let _ ← prefixedType inCondition bound
      return .other
    else if ← skipWord "readonly" then return .readOnly (← prefixedType inCondition bound)
    else if ← skipWord "infer" then
      let _ ← name
      g.inferredBound inCondition
      return .other
    else g.postfixType

/-- Types joined by `&`. -/
def intersectionType (inCondition : Bool) : Parse TypeExpr := do
  let _ ← skipMark "&"
  let members ← separatedBy g.bound "&" (g.prefixedType inCondition g.bound)
  match members with
  | [single] => return single
  | _ => return .other

/-- Types joined by `|`. A single one is no union. -/
def unionType (inCondition : Bool) : Parse TypeExpr := do
  -- A leading bar is written by formatters and joins nothing.
  let _ ← skipMark "|"
  let members ← separatedBy g.bound "|" (g.intersectionType inCondition)
  match members with
  | [single] => return single
  | _ => return .union members

/-- A type without a condition. With `inCondition`, it stands in the condition of another one. -/
def unconditionalType (inCondition : Bool) : Parse TypeExpr := do
  if ← atMark "<" then g.functionType
  -- A parenthesis opens parameters or a type: what follows it decides.
  else if (← atMark "(") && (← g.atParameterList) then g.functionType
  else if (← atWord "abstract") && isWord "new" (← lexemeAfter) then
    advance
    advance
    g.functionType
  else if ← skipWord "new" then g.functionType
  else g.unionType inCondition

/-- A type. -/
def wholeType : Parse TypeExpr := do
  let checked ← g.unconditionalType false
  -- A condition. Both branches are read, and none of them is chosen.
  if (← atWord "extends") && !(← afterLineBreak) then
    advance
    let _ ← g.unconditionalType true
    expectMark "?"
    let _ ← g.type
    expectMark ":"
    let _ ← g.type
    return .other
  else return checked

end ServiceStubs.Source.Grammar
